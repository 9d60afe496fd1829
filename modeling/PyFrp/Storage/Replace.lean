import Mathlib.Logic.Function.Basic
import PyFrp.Coop.Refinement

/-!
# Files that are replaced as a whole

A file is written under a temporary name first and then given its own name, in one
step. Writers may be interrupted or die at any point, and others read meanwhile. For
those who read, this is a store in which every write is one step.
-/

namespace Storage

open Coop

/-- A file that is being written: what it is to have, and what of that is not written yet. -/
structure Draft (ν β : Type) where
  name : ν
  content : List β
  rest : List β

/-- A directory with the files `ν`, written by the writers `τ`, one file at a time each. -/
structure Directory (ν τ β : Type) where
  files : ν → Option (List β)
  -- the temporary file of a writer for a file
  temporary : ν → τ → Option (List β)
  drafts : τ → Option (Draft ν β)

/-- What happens to the files as far as those who read can tell. -/
inductive Update (ν β : Type)
  | publish (name : ν) (content : List β)
  | remove (name : ν)

variable {ν τ β : Type}

def Update.apply [DecidableEq ν] (files : ν → Option (List β)) :
    Update ν β → ν → Option (List β)
  | .publish name content => Function.update files name (some content)
  | .remove name => Function.update files name none

/-- A store in which every write is one step. -/
def registers (ν β : Type) [DecidableEq ν] : System (ν → Option (List β)) (Update ν β) where
  init _ := none
  step files u := some (u.apply files)

namespace Directory

inductive Event (ν τ β : Type)
  /-- The temporary file is created, or emptied if it is there. -/
  | create (t : τ) (name : ν) (content : List β)
  /-- The file system takes some more of it. -/
  | write (t : τ) (n : Nat)
  | replace (t : τ)
  /-- The writing failed: the temporary file is removed. -/
  | abort (t : τ)
  /-- The writer is dead. -/
  | crash (t : τ)
  | unlink (name : ν)

def empty : Directory ν τ β := ⟨fun _ => none, fun _ _ => none, fun _ => none⟩

def setFile [DecidableEq ν] (d : Directory ν τ β) (name : ν) (content : Option (List β)) :
    Directory ν τ β :=
  { d with files := Function.update d.files name content }

def unlink [DecidableEq ν] (d : Directory ν τ β) (name : ν) : Directory ν τ β := d.setFile name none

section Writers

variable [DecidableEq τ]

def setDraft (d : Directory ν τ β) (t : τ) (draft : Option (Draft ν β)) : Directory ν τ β :=
  { d with drafts := Function.update d.drafts t draft }

def crash (d : Directory ν τ β) (t : τ) : Directory ν τ β := d.setDraft t none

variable [DecidableEq ν]

def setTemporary (d : Directory ν τ β) (name : ν) (t : τ) (content : Option (List β)) :
    Directory ν τ β :=
  { d with
    temporary := Function.update d.temporary name
      (Function.update (d.temporary name) t content) }

def create (d : Directory ν τ β) (t : τ) (name : ν) (content : List β) : Directory ν τ β :=
  (d.setTemporary name t (some [])).setDraft t (some ⟨name, content, content⟩)

def write (d : Directory ν τ β) (t : τ) (n : Nat) : Option (Directory ν τ β) :=
  match d.drafts t with
  | none => none
  | some draft =>
      some ((d.setTemporary draft.name t
        ((d.temporary draft.name t).map (· ++ draft.rest.take n))).setDraft t
          (some { draft with rest := draft.rest.drop n }))

/-- The name goes to the temporary file, once it is written out. -/
def replace (d : Directory ν τ β) (t : τ) : Option (Directory ν τ β) :=
  match d.drafts t with
  | some ⟨name, _, []⟩ =>
      some (((d.setFile name (d.temporary name t)).setTemporary name t none).setDraft t none)
  | _ => none

def abort (d : Directory ν τ β) (t : τ) : Directory ν τ β :=
  match d.drafts t with
  | none => d
  | some draft => (d.setTemporary draft.name t none).setDraft t none

def step (d : Directory ν τ β) : Event ν τ β → Option (Directory ν τ β)
  | .create t name content =>
      match d.drafts t with
      | none => some (d.create t name content)
      | some _ => none
  | .write t n => d.write t n
  | .replace t => d.replace t
  | .abort t => some (d.abort t)
  | .crash t => some (d.crash t)
  | .unlink name => some (d.unlink name)

end Writers
end Directory

/-- The directory, from an empty one on. -/
def directory (ν τ β : Type) [DecidableEq ν] [DecidableEq τ] :
    System (Directory ν τ β) (Directory.Event ν τ β) :=
  ⟨.empty, Directory.step⟩

namespace Directory

variable {d d' : Directory ν τ β} {t : τ} {name : ν} {content : List β}

/-! ## What each step does -/

section Names

variable [DecidableEq ν] (d name)

@[simp] theorem setFile_temporary (c : Option (List β)) :
    (d.setFile name c).temporary = d.temporary := rfl

@[simp] theorem setFile_drafts (c : Option (List β)) :
    (d.setFile name c).drafts = d.drafts := rfl

theorem setFile_files (c : Option (List β)) (other : ν) :
    (d.setFile name c).files other = if other = name then c else d.files other := by
  simp [setFile, Function.update_apply]

@[simp] theorem unlink_drafts : (d.unlink name).drafts = d.drafts := rfl

theorem unlink_files (other : ν) :
    (d.unlink name).files other = if other = name then none else d.files other :=
  setFile_files ..

end Names

section Writers

variable [DecidableEq τ] (d t)

@[simp] theorem setDraft_files (draft : Option (Draft ν β)) :
    (d.setDraft t draft).files = d.files := rfl

@[simp] theorem setDraft_temporary (draft : Option (Draft ν β)) :
    (d.setDraft t draft).temporary = d.temporary := rfl

theorem setDraft_drafts (draft : Option (Draft ν β)) (u : τ) :
    (d.setDraft t draft).drafts u = if u = t then draft else d.drafts u := by
  simp [setDraft, Function.update_apply]

@[simp] theorem crash_files : (d.crash t).files = d.files := rfl

theorem crash_drafts (u : τ) : (d.crash t).drafts u = if u = t then none else d.drafts u :=
  setDraft_drafts ..

variable [DecidableEq ν]

@[simp] theorem setTemporary_files (name : ν) (c : Option (List β)) :
    (d.setTemporary name t c).files = d.files := rfl

theorem setTemporary_temporary (name : ν) (c : Option (List β)) (other : ν) (u : τ) :
    (d.setTemporary name t c).temporary other u =
      if other = name ∧ u = t then c else d.temporary other u := by
  by_cases ho : other = name
  · subst ho
    simp [setTemporary, Function.update_apply]
  · simp [setTemporary, ho]

@[simp] theorem create_files : (d.create t name content).files = d.files := rfl

theorem create_drafts (u : τ) : (d.create t name content).drafts u =
    if u = t then some ⟨name, content, content⟩ else d.drafts u :=
  setDraft_drafts ..

@[simp] theorem abort_files : (d.abort t).files = d.files := by
  unfold abort
  split <;> rfl

theorem abort_drafts (u : τ) : (d.abort t).drafts u = if u = t then none else d.drafts u := by
  unfold abort
  split
  · rename_i hnone
    split
    · rename_i hu
      rw [hu, hnone]
    · rfl
  · exact setDraft_drafts ..

end Writers

theorem write_eq_some [DecidableEq ν] [DecidableEq τ] {n : Nat} (h : d.write t n = some d') :
    ∃ draft, d.drafts t = some draft ∧ d'.files = d.files ∧
      (∀ u, d'.drafts u =
        if u = t then some { draft with rest := draft.rest.drop n } else d.drafts u) := by
  unfold write at h
  split at h
  · cases h
  · rename_i draft hdraft
    cases h
    exact ⟨draft, hdraft, rfl, setDraft_drafts _ _ _⟩

theorem replace_eq_some [DecidableEq ν] [DecidableEq τ] (h : d.replace t = some d') :
    ∃ draft, d.drafts t = some draft ∧ draft.rest = [] ∧
      d'.files = (d.setFile draft.name (d.temporary draft.name t)).files ∧
      (∀ u, d'.drafts u = if u = t then none else d.drafts u) ∧
      ∀ other u, u ≠ t → d'.temporary other u = d.temporary other u := by
  unfold replace at h
  split at h
  · rename_i name content hdraft
    cases h
    refine ⟨_, hdraft, rfl, rfl, setDraft_drafts _ _ _, fun other u hut => ?_⟩
    rw [setDraft_temporary, setTemporary_temporary, if_neg fun h => hut h.2, setFile_temporary]
  · cases h

/-! ## Temporary files -/

/-- What is in the temporary file of a draft, and what is not written yet. -/
def Whole (d : Directory ν τ β) : Prop :=
  ∀ t draft, d.drafts t = some draft →
    ∃ done, d.temporary draft.name t = some done ∧ done ++ draft.rest = draft.content

theorem Whole.empty : (empty : Directory ν τ β).Whole := nofun

/-- Only the writer itself is concerned if its temporary file is given up. -/
theorem Whole.drop [DecidableEq τ] (h : d.Whole)
    (hdrafts : ∀ u, d'.drafts u = if u = t then none else d.drafts u)
    (htemporary : ∀ name u, u ≠ t → d'.temporary name u = d.temporary name u) : d'.Whole := by
  intro u draft hu
  rw [hdrafts] at hu
  split at hu
  · cases hu
  · rename_i hut
    rw [htemporary _ _ hut]
    exact h u draft hu

theorem Whole.crash [DecidableEq τ] (h : d.Whole) (t : τ) : (d.crash t).Whole :=
  h.drop (crash_drafts d t) fun _ _ _ => rfl

theorem Whole.unlink [DecidableEq ν] (h : d.Whole) (name : ν) : (d.unlink name).Whole := h

variable [DecidableEq ν] [DecidableEq τ]

theorem Whole.create (h : d.Whole) (t : τ) (name : ν) (content : List β) :
    (d.create t name content).Whole := by
  intro u draft hu
  rw [create_drafts] at hu
  by_cases hut : u = t
  · subst hut
    rw [if_pos rfl] at hu
    cases hu
    exact ⟨[], (setTemporary_temporary ..).trans (if_pos ⟨rfl, rfl⟩), rfl⟩
  · rw [if_neg hut] at hu
    obtain ⟨done, hdone, hrest⟩ := h u draft hu
    exact ⟨done, ((setTemporary_temporary ..).trans (if_neg fun h => hut h.2)).trans hdone, hrest⟩

theorem Whole.write {n : Nat} (h : d.Whole) (hs : d.write t n = some d') : d'.Whole := by
  unfold Directory.write at hs
  split at hs
  · cases hs
  · rename_i draft hdraft
    cases hs
    obtain ⟨done, hdone, hrest⟩ := h t draft hdraft
    intro u other hu
    rw [setDraft_drafts] at hu
    rw [setDraft_temporary, setTemporary_temporary]
    by_cases hut : u = t
    · subst hut
      rw [if_pos rfl] at hu
      cases hu
      rw [if_pos ⟨rfl, rfl⟩, hdone]
      refine ⟨done ++ draft.rest.take n, rfl, ?_⟩
      rw [List.append_assoc, List.take_append_drop]
      exact hrest
    · rw [if_neg hut] at hu
      rw [if_neg fun h => hut h.2]
      exact h u other hu

theorem Whole.abort (h : d.Whole) (t : τ) : (d.abort t).Whole := by
  refine h.drop (abort_drafts d t) fun name u hut => ?_
  unfold Directory.abort
  split
  · rfl
  · rw [setDraft_temporary, setTemporary_temporary, if_neg fun h => hut h.2]

/-- What gets the name is the whole of what was to be written. -/
theorem Whole.replace (h : d.Whole) (hs : d.replace t = some d') :
    ∃ draft, d.drafts t = some draft ∧
      d'.files = (Update.publish draft.name draft.content).apply d.files ∧
      (∀ u, d'.drafts u = if u = t then none else d.drafts u) ∧ d'.Whole := by
  obtain ⟨draft, hdraft, hrest, hfiles, hdrafts, htemporary⟩ := replace_eq_some hs
  obtain ⟨done, hdone, hcontent⟩ := h t draft hdraft
  rw [hrest, List.append_nil] at hcontent
  refine ⟨draft, hdraft, ?_, hdrafts, h.drop hdrafts htemporary⟩
  rw [hfiles, hdone, hcontent]
  rfl

theorem Whole.step {e : Event ν τ β} (h : d.Whole) (hs : d.step e = some d') : d'.Whole := by
  cases e with
  | create t name content =>
      simp only [Directory.step] at hs
      split at hs
      · cases hs
        exact h.create t name content
      · cases hs
  | write t n => exact h.write hs
  | replace t =>
      obtain ⟨-, -, -, -, h'⟩ := h.replace hs
      exact h'
  | abort t =>
      cases hs
      exact h.abort t
  | crash t =>
      cases hs
      exact h.crash t
  | unlink name =>
      cases hs
      exact h.unlink name

theorem whole (h : (directory ν τ β).Reachable d) : d.Whole :=
  h.invariant .empty fun _ _ _ _ hwhole _ hs => hwhole.step hs

/-- For those who read, a file is written in one step. -/
theorem refines_registers : (directory ν τ β).Refines (registers ν β) (fun _ _ => True)
    (fun _ _ => True) Directory.files where
  init := rfl
  step {d e d'} hr _ hs := by
    cases e with
    | create t name content =>
        simp only [directory, step] at hs
        split at hs
        · cases hs
          exact .refl
        · cases hs
    | write t n =>
        obtain ⟨-, -, hfiles, -⟩ := write_eq_some hs
        exact .of_eq hfiles
    | replace t =>
        obtain ⟨draft, -, hfiles, -⟩ := (whole hr).replace hs
        exact .single (b := .publish draft.name draft.content) trivial (congrArg some hfiles.symm)
    | abort t =>
        cases hs
        exact .of_eq (abort_files d t)
    | crash t =>
        cases hs
        exact .refl
    | unlink name =>
        cases hs
        exact .single (b := .remove name) trivial rfl

/-! ## Where the files come from -/

/-- A writer has given to a draft what it may write, by `P`, and to a file what it may
publish, by `Q`. -/
structure From (P Q : τ → ν → List β → Prop) (d : Directory ν τ β) : Prop where
  files : ∀ name content, d.files name = some content → ∃ t, Q t name content
  drafts : ∀ t draft, d.drafts t = some draft → P t draft.name draft.content

variable {P P' Q Q' : τ → ν → List β → Prop}

omit [DecidableEq ν] [DecidableEq τ] in
theorem From.mono (h : From P Q d) (hP : ∀ t name content, P t name content → P' t name content)
    (hQ : ∀ t name content, Q t name content → Q' t name content) : From P' Q' d where
  files name content hc := (h.files name content hc).imp fun t => hQ t name content
  drafts t draft ht := hP _ _ _ (h.drafts t draft ht)

omit [DecidableEq ν] [DecidableEq τ] in
theorem From.empty : From P Q (empty : Directory ν τ β) := ⟨nofun, nofun⟩

theorem From.create (h : From P Q d) (hP : P t name content) :
    From P Q (d.create t name content) where
  files := h.files
  drafts u draft hu := by
    rw [create_drafts] at hu
    split at hu
    · rename_i hut
      cases hu
      rw [hut]
      exact hP
    · exact h.drafts u draft hu

theorem From.write {n : Nat} (h : From P Q d) (hs : d.write t n = some d') : From P Q d' := by
  obtain ⟨draft, hdraft, hfiles, hdrafts⟩ := write_eq_some hs
  refine ⟨hfiles ▸ h.files, fun u other hu => ?_⟩
  rw [hdrafts] at hu
  split at hu
  · rename_i hut
    cases hu
    rw [hut]
    exact h.drafts t draft hdraft
  · exact h.drafts u other hu

omit [DecidableEq ν] in
/-- A writer gives its draft up. -/
theorem From.drop (h : From P Q d) (hfiles : d'.files = d.files)
    (hdrafts : ∀ u, d'.drafts u = if u = t then none else d.drafts u) : From P Q d' := by
  refine ⟨hfiles ▸ h.files, fun u draft hu => ?_⟩
  rw [hdrafts] at hu
  split at hu
  · cases hu
  · exact h.drafts u draft hu

theorem From.abort (h : From P Q d) (t : τ) : From P Q (d.abort t) :=
  h.drop (abort_files d t) (abort_drafts d t)

omit [DecidableEq ν] in
theorem From.crash (h : From P Q d) (t : τ) : From P Q (d.crash t) :=
  h.drop rfl (crash_drafts d t)

omit [DecidableEq τ] in
theorem From.unlink (h : From P Q d) (name : ν) : From P Q (d.unlink name) where
  files other content hc := by
    rw [unlink_files] at hc
    split at hc
    · cases hc
    · exact h.files other content hc
  drafts := h.drafts

/-- What was written may be published now. -/
theorem From.replace (h : From P Q d) (hwhole : d.Whole) (hs : d.replace t = some d')
    (hPQ : ∀ name content, P t name content → Q t name content) : From P Q d' := by
  obtain ⟨draft, hdraft, hfiles, hdrafts, -⟩ := hwhole.replace hs
  constructor
  · intro name content hc
    rw [hfiles] at hc
    by_cases hname : name = draft.name
    · subst hname
      rw [Update.apply, Function.update_self] at hc
      cases hc
      exact ⟨t, hPQ _ _ (h.drafts t draft hdraft)⟩
    · rw [Update.apply, Function.update_of_ne hname] at hc
      exact h.files name content hc
  · intro u other hu
    rw [hdrafts] at hu
    split at hu
    · cases hu
    · exact h.drafts u other hu

end Directory
end Storage
