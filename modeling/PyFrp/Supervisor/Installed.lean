import Mathlib.Data.List.Dedup
import Mathlib.Data.String.Basic
import PyFrp.Python.Maximum
import PyFrp.Validation.Checks

/-!
# The installed version (`update.py`)

`installed_version` goes through the distributions of the package and takes the
greatest of the versions that are installed where the running code was loaded from. An
installation may be half done while it looks: some failures it skips, and the others
it passes on to the supervisor.
-/

namespace PyFrp

open Python Validation

namespace Update

/-- The exceptions, as far as they are told apart here. -/
inductive Raised
  | attributeError
  | osError
  | runtimeError
  | typeError
  | invalidVersion
  -- every other exception
  | other
  deriving DecidableEq

/-- A distribution of the package. -/
structure Distribution where
  -- `str(Path(distribution.locate_file("py_frp")).resolve())`
  directory : Except Raised String
  -- `None` if the metadata has no version
  version : Option String

/-- What going through `metadata.distributions` gives: distributions, and an
exception after them, if looking for the next one fails. -/
structure Listing where
  distributions : List Distribution
  failure : Option Raised

/-- How a set is gone through: what was added comes once each, in an order that may
depend on how the set was built. -/
structure SetOrder (α : Type) [DecidableEq α] where
  order : List α → List α
  perm : ∀ added, (order added).Perm added.dedup

/-- What the function finds around it: `os.path.normcase`, the directory of the loaded
package, and `Version`, which refuses malformed texts. -/
structure Surroundings (V : Type) where
  normcase : String → String
  packageDirectory : String
  version : String → Option V

variable {V : Type} (env : Surroundings V)

/-- The exceptions of `locate_file` and `resolve` that are caught. -/
def Raised.caught : Raised → Bool
  | .attributeError | .osError | .runtimeError | .typeError => true
  | .invalidVersion | .other => false

/-- One round of the loop over the distributions. -/
def addCandidate (candidates : List (Option String)) (distribution : Distribution) :
    Except Raised (List (Option String)) :=
  match distribution.directory with
  | .error e => if e.caught then .ok candidates else .error e
  | .ok candidateDirectory =>
      if env.normcase candidateDirectory ≠ env.normcase env.packageDirectory then .ok candidates
      else .ok (candidates ++ [distribution.version])

/-- `(Version(candidate), candidate)`. -/
def versioned (candidate : Option String) : Except Raised (V × String) :=
  match candidate with
  | none => .error .typeError
  | some text =>
      match env.version text with
      | none => .error .invalidVersion
      | some version => .ok (version, text)

/-- One round of the loop over the candidates. -/
def addParsed (parsed : List (V × String)) (candidate : Option String) :
    Except Raised (List (V × String)) :=
  match versioned env candidate with
  | .ok pair => .ok (parsed ++ [pair])
  | .error .invalidVersion => .ok parsed
  | .error e => .error e

/-- `installed_version`. The first argument is what the call of `metadata.distributions`
gives. -/
def installedVersion [Preorder V] [DecidableLE V] (set : SetOrder (Option String))
    (listing : Except Raised Listing) : Except Raised (Option String) :=
  match listing with
  | .error .osError => .ok none
  | .error e => .error e
  | .ok distributions => do
      let candidates ← distributions.distributions.foldlM (addCandidate env) []
      match distributions.failure with
      | some e => .error e
      | none =>
          let parsed ← (set.order candidates).foldlM (addParsed env) []
          return (maxOf pairAfter parsed).map Prod.snd

/-! ## What it should find -/

/-- The distribution is of the package that is loaded. -/
def located (distribution : Distribution) : Bool :=
  match distribution.directory with
  | .ok directory => env.normcase directory = env.normcase env.packageDirectory
  | .error _ => false

/-- One of the distributions is located and has the valid version `text`. -/
def Installed (distributions : List Distribution) (text : String) (version : V) : Prop :=
  ∃ distribution ∈ distributions, located env distribution = true ∧
    distribution.version = some text ∧ env.version text = some version

/-- What the supervisor relies on. -/
structure Robust [Preorder V] [DecidableLE V] (set : SetOrder (Option String))
    (listing : Listing) : Prop where
  returns : ∃ found, installedVersion env set (.ok listing) = .ok found
  none_iff : installedVersion env set (.ok listing) = .ok none ↔
    ∀ text version, ¬ Installed env listing.distributions text version
  newest : ∀ text, installedVersion env set (.ok listing) = .ok (some text) →
    ∃ version, Installed env listing.distributions text version ∧
      ∀ other version', Installed env listing.distributions other version' → version' ≤ version
  permuted : ∀ distributions, listing.distributions.Perm distributions → ∀ set',
    installedVersion env set' (.ok ⟨distributions, listing.failure⟩) =
      installedVersion env set (.ok listing)

/-- Looking for distributions and for directories raises nothing that is not caught, and
what is located has a version. -/
structure Quiet (listing : Listing) : Prop where
  complete : listing.failure = none
  caught : ∀ distribution ∈ listing.distributions, ∀ e,
    distribution.directory = .error e → e.caught = true
  versions : ∀ distribution ∈ listing.distributions, located env distribution = true →
    distribution.version ≠ none

variable {env}

/-! ## The loops -/

theorem addCandidate_eq_ok {candidates found : List (Option String)} {d : Distribution} :
    addCandidate env candidates d = .ok found ↔
      (∀ e, d.directory = .error e → e.caught = true) ∧
        candidates ++ (if located env d then some d.version else none).toList = found := by
  unfold addCandidate
  cases hdirectory : d.directory with
  | error e =>
      have hlocated : located env d = false := by simp [located, hdirectory]
      cases hcaught : e.caught with
      | false => simp [hcaught]
      | true => simp [hcaught, hlocated]
  | ok directory =>
      dsimp only
      split
      · rename_i hne
        have hlocated : located env d = false := by simp [located, hdirectory, hne]
        simp [hlocated]
      · rename_i heq
        have hlocated : located env d = true := by simpa [located, hdirectory] using heq
        simp [hlocated]

theorem foldlM_addCandidate {ds : List Distribution} {candidates found : List (Option String)} :
    ds.foldlM (addCandidate env) candidates = .ok found ↔
      (∀ d ∈ ds, ∀ e, d.directory = .error e → e.caught = true) ∧
        candidates ++ (ds.filter (located env)).map Distribution.version = found := by
  rw [← List.filterMap_eq_map, List.filterMap_filter]
  exact foldlM_append_eq_ok
    (T := fun d : Distribution => ∀ e, d.directory = .error e → e.caught = true)
    fun _ _ _ => addCandidate_eq_ok

/-- The pair that is compared, if the candidate is valid. -/
def valid (env : Surroundings V) (candidate : Option String) : Option (V × String) :=
  candidate.bind fun text => (env.version text).map fun version => (version, text)

theorem mem_valid {candidate : Option String} {pair : V × String} :
    valid env candidate = some pair ↔
      candidate = some pair.2 ∧ env.version pair.2 = some pair.1 := by
  obtain ⟨version, text⟩ := pair
  cases candidate with
  | none => simp [valid]
  | some candidate =>
      simp only [valid, Option.bind_some, Option.map_eq_some_iff, Prod.mk.injEq, Option.some.injEq]
      constructor
      · rintro ⟨found, hfound, rfl, rfl⟩
        exact ⟨rfl, hfound⟩
      · rintro ⟨rfl, hfound⟩
        exact ⟨version, hfound, rfl, rfl⟩

theorem addParsed_eq_ok {parsed found : List (V × String)} {candidate : Option String} :
    addParsed env parsed candidate = .ok found ↔
      candidate ≠ none ∧ parsed ++ (valid env candidate).toList = found := by
  cases candidate with
  | none => simp [addParsed, versioned]
  | some text =>
      cases hversion : env.version text with
      | none => simp [addParsed, versioned, valid, hversion]
      | some version => simp [addParsed, versioned, valid, hversion]

theorem foldlM_addParsed {candidates : List (Option String)} {parsed found : List (V × String)} :
    candidates.foldlM (addParsed env) parsed = .ok found ↔
      (∀ candidate ∈ candidates, candidate ≠ none) ∧
        parsed ++ candidates.filterMap (valid env) = found :=
  foldlM_append_eq_ok fun _ _ _ => addParsed_eq_ok

/-! ## The function -/

variable {set : SetOrder (Option String)} {listing : Listing}

/-- The pairs that are compared. -/
def compared (env : Surroundings V) (set : SetOrder (Option String))
    (distributions : List Distribution) : List (V × String) :=
  (set.order ((distributions.filter (located env)).map Distribution.version)).filterMap (valid env)

theorem mem_order {α : Type} [DecidableEq α] (set : SetOrder α) {added : List α} {a : α} :
    a ∈ set.order added ↔ a ∈ added := by
  rw [(set.perm added).mem_iff, List.mem_dedup]

theorem mem_compared {distributions : List Distribution} {pair : V × String} :
    pair ∈ compared env set distributions ↔ Installed env distributions pair.2 pair.1 := by
  unfold compared Installed
  simp only [List.mem_filterMap, mem_order, List.mem_map, List.mem_filter, mem_valid]
  constructor
  · rintro ⟨_, ⟨d, ⟨hd, hlocated⟩, rfl⟩, htext, hversion⟩
    exact ⟨d, hd, hlocated, htext, hversion⟩
  · rintro ⟨d, hd, hlocated, htext, hversion⟩
    exact ⟨d.version, ⟨d, ⟨hd, hlocated⟩, rfl⟩, htext, hversion⟩

theorem installed_perm {ds ds' : List Distribution} (h : ds.Perm ds') {text : String}
    {version : V} : Installed env ds text version ↔ Installed env ds' text version := by
  simp only [Installed, h.mem_iff]

theorem Quiet.perm {failure : Option Raised} {ds ds' : List Distribution}
    (h : Quiet env ⟨ds, failure⟩) (hperm : ds.Perm ds') : Quiet env ⟨ds', failure⟩ where
  complete := h.complete
  caught d hd := h.caught d (hperm.mem_iff.mpr hd)
  versions d hd := h.versions d (hperm.mem_iff.mpr hd)

variable [Preorder V] [DecidableLE V]

theorem installedVersion_eq_ok {found : Option String} :
    installedVersion env set (.ok listing) = .ok found ↔
      Quiet env listing ∧
        (maxOf pairAfter (compared env set listing.distributions)).map Prod.snd = found := by
  unfold installedVersion
  dsimp only
  have hnone : (∀ candidate ∈ set.order
      ((listing.distributions.filter (located env)).map Distribution.version), candidate ≠ none) ↔
      ∀ d ∈ listing.distributions, located env d = true → d.version ≠ none := by
    simp only [mem_order, List.forall_mem_map, List.mem_filter, and_imp]
  cases hcandidates : listing.distributions.foldlM (addCandidate env) [] with
  | error e =>
      refine ⟨fun h => (by cases h), ?_⟩
      rintro ⟨hquiet, -⟩
      cases hcandidates.symm.trans (foldlM_addCandidate.mpr ⟨hquiet.caught, rfl⟩)
  | ok candidates =>
      obtain ⟨hcaught, rfl⟩ := foldlM_addCandidate.mp hcandidates
      rw [List.nil_append]
      cases hfailure : listing.failure with
      | some e =>
          refine ⟨fun h => (by cases h), ?_⟩
          rintro ⟨hquiet, -⟩
          cases hfailure.symm.trans hquiet.complete
      | none =>
          dsimp only [bind, Except.bind]
          cases hparsed : List.foldlM (addParsed env) [] (set.order
              ((listing.distributions.filter (located env)).map Distribution.version)) with
          | error e =>
              refine ⟨fun h => (by cases h), ?_⟩
              rintro ⟨hquiet, -⟩
              cases hparsed.symm.trans (foldlM_addParsed.mpr ⟨hnone.mpr hquiet.versions, rfl⟩)
          | ok parsed =>
              obtain ⟨hversions, rfl⟩ := foldlM_addParsed.mp hparsed
              rw [List.nil_append]
              constructor
              · intro h
                cases h
                exact ⟨⟨hfailure, hcaught, hnone.mp hversions⟩, rfl⟩
              · rintro ⟨-, rfl⟩
                rfl

/-! ## What is found -/

theorem maxOf_compared_none {ds : List Distribution} :
    (maxOf pairAfter (compared env set ds)).map Prod.snd = none ↔
      ∀ text version, ¬ Installed env ds text version := by
  rw [Option.map_eq_none_iff, maxOf_eq_none, List.eq_nil_iff_forall_not_mem]
  constructor
  · intro h text version hinstalled
    exact h (version, text) (mem_compared.mpr hinstalled)
  · intro h pair hpair
    exact h pair.2 pair.1 (mem_compared.mp hpair)

variable [Std.Total fun v w : V => v ≤ w]

theorem maxOf_compared_some {ds : List Distribution} {text : String}
    (h : (maxOf pairAfter (compared env set ds)).map Prod.snd = some text) :
    ∃ version, Installed env ds text version ∧
      ∀ other version', Installed env ds other version' → version' ≤ version := by
  obtain ⟨pair, hmax, rfl⟩ := Option.map_eq_some_iff.mp h
  refine ⟨pair.1, mem_compared.mp (mem_of_maxOf hmax), ?_⟩
  intro other version' hother
  have hafter := ranks_pairAfter.maxOf hmax (version', other) (mem_compared.mpr hother)
  exact (pairAfter_eq_false.mp hafter).1

/-- The texts of two greatest pairs are the same, so the order in which the pairs come does
not matter. -/
theorem maxOf_compared_perm {ds ds' : List Distribution} (h : ds.Perm ds')
    (set set' : SetOrder (Option String)) :
    (maxOf pairAfter (compared env set' ds')).map Prod.snd =
      (maxOf pairAfter (compared env set ds)).map Prod.snd := by
  have hmem : ∀ pair, pair ∈ compared env set ds ↔ pair ∈ compared env set' ds' := by
    intro pair
    rw [mem_compared, mem_compared, installed_perm h]
  cases hmax : maxOf pairAfter (compared env set ds) with
  | none =>
      rw [maxOf_eq_none, List.eq_nil_iff_forall_not_mem] at hmax
      have hnil : compared env set' ds' = [] :=
        List.eq_nil_iff_forall_not_mem.mpr fun pair hpair => hmax pair ((hmem pair).mpr hpair)
      rw [hnil]
      rfl
  | some pair =>
      cases hmax' : maxOf pairAfter (compared env set' ds') with
      | none =>
          rw [maxOf_eq_none] at hmax'
          have hpair := (hmem pair).mp (mem_of_maxOf hmax)
          rw [hmax'] at hpair
          cases hpair
      | some pair' =>
          have hafter := ranks_pairAfter.maxOf hmax pair' ((hmem pair').mpr (mem_of_maxOf hmax'))
          have hafter' := ranks_pairAfter.maxOf hmax' pair ((hmem pair).mp (mem_of_maxOf hmax))
          exact congrArg some (snd_eq_of_pairAfter hafter hafter')

/-- The version is found, and in every order the same, if nothing is raised that is not
caught and no located distribution is without a version. -/
theorem installedVersion_robust_iff (set : SetOrder (Option String)) (listing : Listing) :
    Robust env set listing ↔ Quiet env listing := by
  constructor
  · intro h
    obtain ⟨found, hfound⟩ := h.returns
    exact (installedVersion_eq_ok.mp hfound).1
  · intro hquiet
    have hfound : ∀ found, installedVersion env set (.ok listing) = .ok found ↔
        (maxOf pairAfter (compared env set listing.distributions)).map Prod.snd = found := by
      intro found
      rw [installedVersion_eq_ok]
      exact ⟨And.right, fun h => ⟨hquiet, h⟩⟩
    refine ⟨⟨_, (hfound _).mpr rfl⟩, ?_, ?_, ?_⟩
    · rw [hfound]
      exact maxOf_compared_none
    · intro text htext
      exact maxOf_compared_some ((hfound _).mp htext)
    · intro distributions hperm set'
      refine (installedVersion_eq_ok.mpr ⟨hquiet.perm hperm, ?_⟩).trans ((hfound _).mpr rfl).symm
      exact maxOf_compared_perm hperm set set'

/-! ## While an installation is going on -/

def builtOrder : SetOrder (Option String) := ⟨List.dedup, fun _ => .refl _⟩

/-- `0.4` and `0.4.0` are two texts of one version. -/
def someVersions : Surroundings Nat where
  normcase path := path
  packageDirectory := "/site/py_frp"
  version text :=
    if text = "0.4" ∨ text = "0.4.0" then some 4 else if text = "0.2.0" then some 2 else none

def installing : Listing where
  distributions := [⟨.ok "/site/py_frp", some "0.2.0"⟩, ⟨.error .osError, some "0.9.0"⟩,
    ⟨.ok "/site/py_frp", some "0.4"⟩, ⟨.ok "/site/py_frp", some "not-a-version"⟩,
    ⟨.ok "/user/py_frp", none⟩, ⟨.ok "/site/py_frp", some "0.4.0"⟩]
  failure := none

theorem installing_robust : Robust someVersions builtOrder installing :=
  (installedVersion_robust_iff builtOrder installing).mpr
    ⟨rfl, by simp [installing, Raised.caught], by decide⟩

/-- The metadata of the version that is being installed is not written yet. -/
theorem unwritten_metadata :
    ¬ Robust someVersions builtOrder
      ⟨[⟨.ok "/site/py_frp", some "0.2.0"⟩, ⟨.ok "/site/py_frp", none⟩], none⟩ := by
  intro h
  obtain ⟨found, hfound⟩ := h.returns
  exact (installedVersion_eq_ok.mp hfound).1.versions ⟨.ok "/site/py_frp", none⟩
    (.tail _ (.head _)) rfl rfl

end Update
end PyFrp
