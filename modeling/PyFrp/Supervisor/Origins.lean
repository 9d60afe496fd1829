import PyFrp.Supervisor.Exchange

/-!
# Where the files of the channel come from

Each file of the channel has one kind of writer, and holds nothing but what such a
writer has given to `_write_json`, as a whole. What is read of it, also by a process
that is started later, is therefore a payload of this writer.
-/

namespace PyFrp

open Python Coop Storage

/-- The file that the child is writing. -/
def ChildPoint.writes : ChildPoint → Option ChannelFile
  | .reporting => some .status
  | .publishing _ => some .restartState
  | _ => none

/-- The version that the child goes to, once it has got a command. -/
def ChildPoint.target : ChildPoint → Option String
  | .changed target => some target
  | .publishing target => some target
  | .restarted target => some target
  | _ => none

/-- The version whose restart state the child writes or has written. -/
def ChildPoint.published : ChildPoint → Option String
  | .publishing target => some target
  | .restarted target => some target
  | _ => none

/-- What a child never changes: it is the same process, at the same channel, and its
environment is fixed once it is given away. -/
structure Child.Becomes (c c' : Child) : Prop where
  version : c'.version = c.version
  pid : c'.pid = c.pid
  channel : childChannel c'.environ = childChannel c.environ
  published : ∀ T, c.point.published = some T → c'.point.published = some T ∧ c'.environ = c.environ
  restarted : ∀ T, c.point = .restarted T → c'.point = .restarted T

theorem Child.Becomes.refl {c : Child} : c.Becomes c :=
  ⟨rfl, rfl, rfl, fun _ h => ⟨h, rfl⟩, fun _ h => h⟩

/-- A point is left that publishes nothing. -/
theorem Child.Becomes.of_none {c : Child} {environ : Environment} {p : ChildPoint}
    (hchannel : childChannel environ = childChannel c.environ) (hnone : c.point.published = none) :
    c.Becomes { c with environ := environ, point := p } where
  version := rfl
  pid := rfl
  channel := hchannel
  published T h := by
    rw [hnone] at h
    cases h
  restarted T h := by
    rw [h] at hnone
    cases hnone

/-! ## The channel of a child -/

theorem childChannel_set {environ : Environment} {key value : String}
    (hkey : key ∉ supervisionKeys) : childChannel (environ.set key value) = childChannel environ := by
  have hne : ∀ other ∈ supervisionKeys, other ≠ key := fun other hmem heq => hkey (heq ▸ hmem)
  have hget : ∀ other ∈ supervisionKeys, (environ.set key value).get? other = environ.get? other :=
    fun other hmem => (Dict.get?_set ..).trans (if_neg (hne other hmem))
  have hchild := hget supervisedChildEnv (.head _)
  have hroot := hget supervisorRootEnv (.tail _ (.head _))
  have hgeneration := hget supervisorGenerationEnv (.tail _ (.tail _ (.head _)))
  unfold childChannel isSupervisedChild envGiven
  rw [hchild, hroot, hgeneration]

/-- A child finds the channel that it was started for. -/
theorem childChannel_prepareChildEnvironment {root generation : String} (base : Environment)
    (hroot : root ≠ "") (hgeneration : generation ≠ "") :
    childChannel (prepareChildEnvironment root base generation) = some (root, generation) := by
  have hchild : (prepareChildEnvironment root base generation).get? supervisedChildEnv =
      some "1" := by
    have hne₁ : supervisedChildEnv ≠ supervisorRootEnv := by decide
    have hne₂ : supervisedChildEnv ≠ supervisorGenerationEnv := by decide
    simp [prepareChildEnvironment, hne₁, hne₂]
  have hrootEnv : (prepareChildEnvironment root base generation).get? supervisorRootEnv =
      some root := by
    have hne : supervisorRootEnv ≠ supervisorGenerationEnv := by decide
    simp [prepareChildEnvironment, hne]
  have hgenerationEnv : (prepareChildEnvironment root base generation).get?
      supervisorGenerationEnv = some generation := by
    simp [prepareChildEnvironment]
  simp [childChannel, isSupervisedChild, envGiven, hchild, hrootEnv, hgenerationEnv, hroot,
    hgeneration]

theorem preservedKeys_supervision : ∀ key ∈ preservedKeys, key ∉ supervisionKeys := by decide

theorem requestRestart_environ {environ environ' : Environment} {target : String}
    {payload : Fields} (h : requestRestart environ target = some (environ', payload)) :
    environ' = environ.set targetVersionEnv target ∧
      publishRestartState environ' target = some payload := by
  unfold requestRestart at h
  obtain ⟨p, hp, heq⟩ := Option.map_eq_some_iff.mp h
  cases heq
  exact ⟨rfl, hp⟩

namespace ChannelRun

variable {config : SupervisorConfig} {dumps : Fields → Bytes} {loads : Bytes → Option Fields}
variable {environ : Environment} {s s' : ChannelRun} {e : Event} {g : String} {c c' : Child}

/-! ## What is never lost -/

structure Grows (s s' : ChannelRun) : Prop where
  launches : ∀ l ∈ s.run.supervisor.launches, l ∈ s'.run.supervisor.launches
  requests : ∀ r ∈ s.run.supervisor.requests, r ∈ s'.run.supervisor.requests
  saved : ∀ payload ∈ s.saved, payload ∈ s'.saved
  observed : ∀ T ∈ s.observed, T ∈ s'.observed
  children : ∀ g c, s.children g = some c → ∃ c', s'.children g = some c' ∧ c.Becomes c'

/-- The children are those that were started, each at the channel. -/
structure Known (config : SupervisorConfig) (s : ChannelRun) : Prop where
  channel : ∀ g c, s.children g = some c → childChannel c.environ = some (config.root, g)
  launched : ∀ g c, s.children g = some c → ∃ l ∈ s.run.supervisor.launches, l.generation = g

theorem children_setChild (s : ChannelRun) (g : String) (c : Child) (other : String) :
    (s.setChild g c).children other = if other = g then some c else s.children other :=
  Function.update_apply ..

theorem children_setChild_self (s : ChannelRun) (g : String) (c : Child) :
    (s.setChild g c).children g = some c :=
  Function.update_self ..

theorem abandon_children (s : ChannelRun) (e : SupervisorRun.Event) :
    (s.abandon e).children = s.children ∧ (s.abandon e).saved = s.saved := by
  unfold abandon
  split <;> exact ⟨rfl, rfl⟩

theorem run_grows {e : SupervisorRun.Event} {t t' : SupervisorRun}
    (h : t.step config e = some t') :
    (∀ l ∈ t.supervisor.launches, l ∈ t'.supervisor.launches) ∧
      ∀ r ∈ t.supervisor.requests, r ∈ t'.supervisor.requests := by
  have hsame : t'.supervisor.launches = t.supervisor.launches →
      t'.supervisor.requests = t.supervisor.requests →
      (∀ l ∈ t.supervisor.launches, l ∈ t'.supervisor.launches) ∧
        ∀ r ∈ t.supervisor.requests, r ∈ t'.supervisor.requests := by
    intro hlaunches hrequests
    rw [hlaunches, hrequests]
    exact ⟨fun _ h => h, fun _ h => h⟩
  cases SupervisorRun.step_course h with
  | outer _ _ hlaunches hrequests _ => exact hsame hlaunches hrequests
  | inner _ hcourse _ _ =>
      cases hcourse with
      | kept _ hlaunches hrequests => exact hsame hlaunches hrequests
      | launched _ _ heq =>
          rw [heq]
          exact ⟨fun _ h => .tail _ h, fun _ h => h⟩
      | reported _ _ _ heq =>
          rw [heq]
          exact ⟨fun _ h => h, fun _ h => h⟩
      | requested _ _ _ _ _ _ hlaunches hrequests =>
          rw [hlaunches, hrequests]
          exact ⟨fun _ h => h, fun _ h => .tail _ h⟩
      | handed _ _ _ _ hlaunches hrequests => exact hsame hlaunches hrequests
      | freed _ _ _ hlaunches hrequests => exact hsame hlaunches hrequests

/-- A child that acts stays itself. -/
theorem Act.becomes (h : s.Act config dumps loads g c s') (hchild : s.children g = some c) :
    ∃ c', s'.children g = some c' ∧ c.Becomes c' ∧
      (∀ other, other ≠ g → s'.children other = s.children other) ∧ s'.run = s.run := by
  have hset : ∀ (t : ChannelRun) (c' : Child), t.children = s.children → t.run = s.run →
      c.Becomes c' → ∃ c'', (t.setChild g c').children g = some c'' ∧ c.Becomes c'' ∧
        (∀ other, other ≠ g → (t.setChild g c').children other = s.children other) ∧
        (t.setChild g c').run = s.run := by
    intro t c' hchildren hrun hbecomes
    refine ⟨c', children_setChild_self .., hbecomes, fun other hne => ?_, hrun⟩
    rw [children_setChild, if_neg hne, hchildren]
  cases h with
  | stays => exact ⟨c, hchild, .refl, fun _ _ => rfl, rfl⟩
  | report hp hpayload => exact hset _ _ rfl rfl (.of_none rfl (by rw [hp]; rfl))
  | reported hp hd => exact hset _ _ rfl rfl (.of_none rfl (by rw [hp]; rfl))
  | commanded hp hauto htarget hne => exact hset _ _ rfl rfl (.of_none rfl (by rw [hp]; rfl))
  | preserve hp hkey =>
      refine hset _ _ rfl rfl (.of_none ?_ (by rw [hp]; rfl))
      exact childChannel_set (preservedKeys_supervision _ hkey)
  | requestRestart hp hrequest =>
      obtain ⟨rfl, -⟩ := requestRestart_environ hrequest
      refine hset _ _ rfl rfl (.of_none ?_ (by rw [hp]; rfl))
      exact childChannel_set (by decide)
  | published hp hd =>
      refine hset _ _ rfl rfl ⟨rfl, rfl, rfl, fun T hT => ⟨?_, rfl⟩, fun T hT => ?_⟩
      · rw [hp] at hT
        exact hT
      · rw [hp] at hT
        cases hT

theorem Act.saved (h : s.Act config dumps loads g c s') :
    (∀ payload ∈ s.saved, payload ∈ s'.saved) ∧ s'.observed = s.observed := by
  cases h with
  | report => exact ⟨fun _ h => .tail _ h, rfl⟩
  | requestRestart => exact ⟨fun _ h => .tail _ h, rfl⟩
  | _ => exact ⟨fun _ h => h, rfl⟩

/-- A generation is drawn once. -/
theorem Known.fresh {run : SupervisorRun} (h : Known config s)
    (hs : s.run.step config (.inner (.popen g)) = some run) :
    s.children g = none ∧
      ∃ target, s.run.supervisor.phase = .launch target ∧ s.run.stage = .children ∧
        run.stage = .children ∧ run.supervisor = s.run.supervisor.startChild config target g := by
  simp only [SupervisorRun.step] at hs
  split at hs
  · rename_i hstage
    obtain ⟨-, t, ht, rfl⟩ := SupervisorRun.runChildren_eq hs
    obtain ⟨target, hp, hfresh, rfl⟩ := Supervisor.popen_fresh ht
    refine ⟨?_, target, hp, hstage, (SupervisorRun.track_stage ..).trans hstage, rfl⟩
    cases hc : s.children g with
    | none => rfl
    | some c =>
        obtain ⟨l, hl, hlg⟩ := h.launched g c hc
        exact absurd hlg (hfresh l hl)
  · cases hs

theorem Change.grows (hknown : Known config s) (h : s.Change config dumps loads s') :
    s.Grows s' := by
  have hchildren : ∀ g c, s.children g = some c → ∃ c', s.children g = some c' ∧ c.Becomes c' :=
    fun g c hc => ⟨c, hc, .refl⟩
  have hall : ∀ {α : Type} (l : List α), ∀ a ∈ l, a ∈ l := fun _ _ h => h
  cases h with
  | @supervised e run hrun =>
      obtain ⟨hlaunches, hrequests⟩ := run_grows hrun
      obtain ⟨hsame, hsaved⟩ := abandon_children s e
      exact ⟨hlaunches, hrequests, fun p hp => by rw [hsaved]; exact hp,
        fun T hT => List.mem_append_right _ hT, fun g c hc => ⟨c, by rw [hsame]; exact hc, .refl⟩⟩
  | requested hrun =>
      obtain ⟨hlaunches, hrequests⟩ := run_grows hrun
      exact ⟨hlaunches, hrequests, fun _ h => .tail _ h, fun _ h => .tail _ h, hchildren⟩
  | @launched generation version pid run _ hrun =>
      obtain ⟨hlaunches, hrequests⟩ := run_grows hrun
      refine ⟨hlaunches, hrequests, hall _, hall _, fun g c hc => ⟨c, ?_, .refl⟩⟩
      have hne : g ≠ generation := by
        rintro rfl
        rw [(hknown.fresh hrun).1] at hc
        cases hc
      exact (children_setChild ..).trans ((if_neg hne).trans hc)
  | commanded => exact ⟨hall _, hall _, hall _, hall _, hchildren⟩
  | wrote => exact ⟨hall _, hall _, hall _, hall _, hchildren⟩
  | removed => exact ⟨hall _, hall _, hall _, hall _, hchildren⟩
  | @acted _ generation c hc _ hact =>
      obtain ⟨c', hc', hbecomes, hother, hrun⟩ := hact.becomes hc
      obtain ⟨hsaved, hobserved⟩ := hact.saved
      refine ⟨by rw [hrun]; exact hall _, by rw [hrun]; exact hall _, hsaved,
        by rw [hobserved]; exact hall _, fun g d hd => ?_⟩
      by_cases hg : g = generation
      · subst hg
        rw [hc] at hd
        cases hd
        exact ⟨c', hc', hbecomes⟩
      · exact ⟨d, (hother g hg).trans hd, .refl⟩
  | exited hrun =>
      obtain ⟨hlaunches, hrequests⟩ := run_grows hrun
      exact ⟨hlaunches, hrequests, hall _, hall _, hchildren⟩

theorem Known.initial : Known config (initial environ) := ⟨nofun, nofun⟩

/-- Children that are kept, and perhaps go on, stay known. -/
theorem Known.of_children (h : Known config s)
    (hlaunches : ∀ l ∈ s.run.supervisor.launches, l ∈ s'.run.supervisor.launches)
    (hchildren : ∀ g c', s'.children g = some c' →
      ∃ c, s.children g = some c ∧ c.Becomes c') : Known config s' where
  channel g c' hc' := by
    obtain ⟨c, hc, hbecomes⟩ := hchildren g c' hc'
    exact hbecomes.channel.trans (h.channel g c hc)
  launched g c' hc' := by
    obtain ⟨c, hc, -⟩ := hchildren g c' hc'
    obtain ⟨l, hl, hlg⟩ := h.launched g c hc
    exact ⟨l, hlaunches l hl, hlg⟩

theorem Known.change (hroot : config.root ≠ "") (h : Known config s)
    (hs : s.Change config dumps loads s') : Known config s' := by
  have hgrows := hs.grows h
  have hsame : ∀ g c', s.children g = some c' → ∃ c, s.children g = some c ∧ c.Becomes c' :=
    fun g c' hc' => ⟨c', hc', .refl⟩
  cases hs with
  | @supervised e =>
      refine h.of_children hgrows.launches fun g c' hc' => hsame g c' ?_
      rw [← (abandon_children s e).1]
      exact hc'
  | requested => exact h.of_children hgrows.launches hsame
  | @launched generation version pid run hgeneration hrun =>
      obtain ⟨-, target, -, -, -, hsupervisor⟩ := h.fresh hrun
      constructor
      · intro g c' hc'
        rw [children_setChild] at hc'
        split at hc'
        · rename_i hg
          subst hg
          cases hc'
          exact childChannel_prepareChildEnvironment _ hroot hgeneration
        · exact h.channel g c' hc'
      · intro g c' hc'
        rw [children_setChild] at hc'
        split at hc'
        · rename_i hg
          subst hg
          refine ⟨⟨g, target,
            prepareChildEnvironment config.root s.run.supervisor.environment g⟩, ?_, rfl⟩
          show _ ∈ run.supervisor.launches
          rw [hsupervisor]
          exact .head _
        · obtain ⟨l, hl, hlg⟩ := h.launched g c' hc'
          exact ⟨l, hgrows.launches l hl, hlg⟩
  | commanded => exact h.of_children hgrows.launches hsame
  | wrote => exact h.of_children hgrows.launches hsame
  | removed => exact h.of_children hgrows.launches hsame
  | @acted _ generation c hc _ hact =>
      obtain ⟨c', hc', hbecomes, hother, -⟩ := hact.becomes hc
      refine h.of_children hgrows.launches fun g d hd => ?_
      by_cases hg : g = generation
      · subst hg
        rw [hc'] at hd
        cases hd
        exact ⟨c, hc, hbecomes⟩
      · exact ⟨d, (hother g hg).symm.trans hd, .refl⟩
  | exited => exact h.of_children hgrows.launches hsame

/-! ## The directory -/

/-- A child has a draft only where it writes, and only while it is alive. -/
def Drafting (s : ChannelRun) : Prop :=
  ∀ g draft, s.directory.drafts (.child g) = some draft →
    s.run.processes g = some .running ∧
      ∃ c, s.children g = some c ∧ c.point.writes = some draft.name

theorem Drafting.no_draft (h : Drafting s) (hchild : s.children g = some c)
    (hp : c.point.writes = none) : s.directory.drafts (.child g) = none := by
  cases hd : s.directory.drafts (.child g) with
  | none => rfl
  | some draft =>
      obtain ⟨-, c', hc', hwrites⟩ := h g draft hd
      rw [hchild] at hc'
      cases hc'
      rw [hp] at hwrites
      cases hwrites

theorem Drafting.initial : Drafting (initial environ) := nofun

/-- A draft that is kept, of a child that goes on as it was. -/
theorem Drafting.keep (h : Drafting s) {draft old : Draft ChannelFile UInt8}
    (hold : s.directory.drafts (.child g) = some old) (hname : draft.name = old.name)
    (hrun : s.run.processes g = some .running → s'.run.processes g = some .running)
    (hchild : ∀ c, s.children g = some c → s'.children g = some c) :
    s'.run.processes g = some .running ∧
      ∃ c, s'.children g = some c ∧ c.point.writes = some draft.name := by
  obtain ⟨hrunning, c, hc, hwrites⟩ := h g old hold
  exact ⟨hrun hrunning, c, hchild c hc, hname ▸ hwrites⟩

theorem abandon_drafts (s : ChannelRun) (e : SupervisorRun.Event) (g : String) :
    (s.abandon e).directory.drafts (.child g) = s.directory.drafts (.child g) := by
  have habort : (s.directory.abort .supervisor).drafts (.child g) =
      s.directory.drafts (.child g) := by
    rw [Directory.abort_drafts, if_neg nofun]
  unfold abandon
  split
  · exact habort
  · exact habort
  · rfl

/-- The other children keep their drafts, and the child that acts has the draft of its point. -/
theorem Drafting.setChild (h : Drafting s) (hrun : s.run.processes g = some .running)
    {t : ChannelRun} {c' : Child} (htrun : t.run = s.run) (hchildren : t.children = s.children)
    (hother : ∀ other, other ≠ g →
      t.directory.drafts (.child other) = s.directory.drafts (.child other))
    (hself : ∀ draft, t.directory.drafts (.child g) = some draft →
      c'.point.writes = some draft.name) : Drafting (t.setChild g c') := by
  intro other draft hdraft
  by_cases hg : other = g
  · subst hg
    refine ⟨?_, c', children_setChild_self .., hself draft hdraft⟩
    show t.run.processes other = some .running
    rw [htrun]
    exact hrun
  · have hold := (hother other hg).symm.trans hdraft
    refine h.keep hold rfl (fun hr => ?_) fun c hc => ?_
    · show t.run.processes other = some .running
      rw [htrun]
      exact hr
    · rw [children_setChild, if_neg hg, hchildren]
      exact hc

/-- What a child that acts does to the drafts of the children. -/
theorem Act.drafting (hd : Drafting s) (hchild : s.children g = some c)
    (hrun : s.run.processes g = some .running) (h : s.Act config dumps loads g c s') :
    Drafting s' := by
  have hnone : c.point.writes = none → ∀ c' : Child, Drafting (s.setChild g c') := by
    intro hp c'
    refine hd.setChild hrun rfl rfl (fun _ _ => rfl) fun draft hdraft => ?_
    rw [hd.no_draft hchild hp] at hdraft
    cases hdraft
  have hcreate : ∀ (name : ChannelFile) (payload : Fields) (c' : Child),
      c'.point.writes = some name →
        Drafting ((s.writeJson dumps (.child g) name payload).setChild g c') := by
    intro name payload c' hwrites
    refine hd.setChild hrun rfl rfl (fun other hg => ?_) fun draft hdraft => ?_
    · exact (Directory.create_drafts ..).trans (if_neg (by simpa using hg))
    · have hself := (Directory.create_drafts ..).symm.trans hdraft
      rw [if_pos rfl] at hself
      cases hself
      exact hwrites
  have hreplace : ∀ (d : Directory ChannelFile Writer UInt8) (c' : Child),
      s.directory.replace (.child g) = some d →
        Drafting ({ s with directory := d }.setChild g c') := by
    intro d c' hd'
    obtain ⟨-, -, -, -, hdrafts, -⟩ := Directory.replace_eq_some hd'
    refine hd.setChild hrun rfl rfl (fun other hg => ?_) fun draft hdraft => ?_
    · exact (hdrafts _).trans (if_neg (by simpa using hg))
    · have hself := (hdrafts _).symm.trans hdraft
      rw [if_pos rfl] at hself
      cases hself
  cases h with
  | stays => exact hd
  | report => exact hcreate _ _ _ rfl
  | reported _ hd' => exact hreplace _ _ hd'
  | commanded hp => exact hnone (by rw [hp]; rfl) _
  | preserve hp => exact hnone (by rw [hp]; rfl) _
  | requestRestart => exact hcreate _ _ _ rfl
  | published _ hd' => exact hreplace _ _ hd'

theorem Drafting.change (hknown : Known config s) (h : Drafting s)
    (hs : s.Change config dumps loads s') : Drafting s' := by
  -- a process that does not exit goes on
  have hgoes : ∀ {e : SupervisorRun.Event} {run : SupervisorRun}, s.run.step config e = some run →
      (∀ g code, e ≠ .exit g code) → ∀ g, s.run.processes g = some .running →
        run.processes g = some .running := by
    intro e run hstep hexit g hrun
    rcases SupervisorRun.running_step hstep hrun with hrun | ⟨code, he⟩
    · exact hrun
    · exact absurd he (hexit g code)
  cases hs with
  | @supervised e run hstep _ hexit =>
      intro g draft hdraft
      have hold := (abandon_drafts s e g).symm.trans hdraft
      refine h.keep hold rfl (hgoes hstep hexit g) fun c hc => ?_
      show (s.abandon e).children g = some c
      rw [(abandon_children s e).1]
      exact hc
  | requested hstep =>
      intro g draft hdraft
      have hold := (Directory.create_drafts ..).symm.trans hdraft
      rw [if_neg nofun] at hold
      exact h.keep hold rfl (hgoes hstep (by simp) g) fun c hc => hc
  | @launched generation _ _ _ _ hstep =>
      intro g draft hdraft
      refine h.keep hdraft rfl (hgoes hstep (by simp) g) fun c hc => ?_
      have hne : g ≠ generation := by
        rintro rfl
        rw [(hknown.fresh hstep).1] at hc
        cases hc
      exact (children_setChild ..).trans ((if_neg hne).trans hc)
  | commanded hd =>
      intro g draft hdraft
      obtain ⟨-, -, -, -, hdrafts, -⟩ := Directory.replace_eq_some hd
      have hold := (hdrafts _).symm.trans hdraft
      rw [if_neg nofun] at hold
      exact h.keep hold rfl id fun c hc => hc
  | @wrote d writer n hd =>
      intro g draft hdraft
      obtain ⟨old, hold, -, hdrafts⟩ := Directory.write_eq_some hd
      have hwritten := (hdrafts _).symm.trans hdraft
      split at hwritten
      · rename_i heq
        cases hwritten
        rw [← heq] at hold
        exact h.keep hold rfl id fun c hc => hc
      · exact h.keep hwritten rfl id fun c hc => hc
  | removed => exact fun g draft hdraft => h.keep (s := s) hdraft rfl id fun c hc => hc
  | acted hc hrun hact => exact hact.drafting h hc hrun
  | @exited generation code removed run hstep =>
      intro g draft hdraft
      have hdropped : ∀ u, (if removed then s.directory.abort (.child generation)
          else s.directory.crash (.child generation)).drafts u =
            if u = .child generation then none else s.directory.drafts u := by
        intro u
        split
        · exact Directory.abort_drafts ..
        · exact Directory.crash_drafts ..
      have hold := (hdropped _).symm.trans hdraft
      split at hold
      · cases hold
      · rename_i hne
        refine h.keep hold rfl (fun hrun => ?_) fun c hc => hc
        rcases SupervisorRun.running_step hstep hrun with hrun | ⟨_, he⟩
        · exact hrun
        · cases he
          exact absurd rfl hne

/-- The step is one of the directory, or several. -/
theorem Change.runs (hd : Drafting s) (hs : s.Change config dumps loads s') :
    (Storage.directory ChannelFile Writer UInt8).Runs (fun _ _ => True) s.directory
      s'.directory := by
  have hcreate : ∀ (writer : Writer) (name : ChannelFile) (content : Bytes),
      s.directory.drafts writer = none →
        (Storage.directory ChannelFile Writer UInt8).Runs (fun _ _ => True) s.directory
          (s.directory.create writer name content) := by
    intro writer name content hnone
    refine .single (b := .create writer name content) trivial ?_
    simp only [Storage.directory, Directory.step, hnone]
  have hreplace : ∀ (writer : Writer) (d : Directory ChannelFile Writer UInt8),
      s.directory.replace writer = some d →
        (Storage.directory ChannelFile Writer UInt8).Runs (fun _ _ => True) s.directory d :=
    fun writer d hd => .single (b := .replace writer) trivial hd
  cases hs with
  | @supervised e =>
      show System.Runs _ _ _ (s.abandon e).directory
      unfold abandon
      split
      · exact .single (b := .abort .supervisor) trivial rfl
      · exact .single (b := .abort .supervisor) trivial rfl
      · exact .refl
  | requested _ _ _ _ hcommanding => exact hcreate _ _ _ (by simpa [commanding] using hcommanding)
  | launched =>
      have hunlink : ∀ (d : Directory ChannelFile Writer UInt8) (name : ChannelFile),
          (Storage.directory ChannelFile Writer UInt8).Runs (fun _ _ => True) d
            (d.unlink name) :=
        fun d name => .single (b := .unlink name) trivial rfl
      exact ((hunlink _ .status).trans (hunlink _ .command)).trans (hunlink _ .restartState)
  | commanded hd' => exact hreplace _ _ hd'
  | @wrote d writer n hd' => exact .single (b := .write writer n) trivial hd'
  | @removed name => exact .single (b := .unlink name) trivial rfl
  | acted hc _ hact =>
      cases hact with
      | stays => exact .refl
      | report hp => exact hcreate _ _ _ (hd.no_draft hc (by rw [hp]; rfl))
      | reported _ hd' => exact hreplace _ _ hd'
      | commanded => exact .refl
      | preserve => exact .refl
      | requestRestart hp => exact hcreate _ _ _ (hd.no_draft hc (by rw [hp]; rfl))
      | published _ hd' => exact hreplace _ _ hd'
  | @exited generation code removed =>
      show System.Runs _ _ _ (if removed then _ else _)
      split
      · exact .single (b := .abort (.child generation)) trivial rfl
      · exact .single (b := .crash (.child generation)) trivial rfl

variable {C : ChannelRun → Event → Prop}

theorem known_drafting (hroot : config.root ≠ "")
    (h : (channelRun config dumps loads environ).ReachableUnder C s) :
    Known config s ∧ Drafting s := by
  refine h.invariant (P := fun s => Known config s ∧ Drafting s) ⟨.initial, .initial⟩
    fun s e s' _ hok _ hs => ?_
  have hchange := step_change hs
  exact ⟨hok.1.change hroot hchange, hok.2.change hok.1 hchange⟩

theorem refines_directory (hroot : config.root ≠ "") :
    (channelRun config dumps loads environ).Refines
      (Storage.directory ChannelFile Writer UInt8) C (fun _ _ => True) directory where
  init := rfl
  step hr _ hs := (step_change hs).runs (known_drafting hroot hr).2

/-! ## Who has written what -/

/-- What a writer may have given to `_write_json` for a file. -/
inductive Writes (dumps : Fields → Bytes) (s : ChannelRun) : Writer → ChannelFile → Bytes → Prop
  | command {g T : String} : (g, T) ∈ s.run.supervisor.requests →
      sortKeys (restartCommand g T) ∈ s.saved →
      Writes dumps s .supervisor .command (dumps (sortKeys (restartCommand g T)))
  | status {g : String} {c : Child} : s.children g = some c →
      sortKeys (statusPayload g c.version c.pid) ∈ s.saved →
      Writes dumps s (.child g) .status (dumps (sortKeys (statusPayload g c.version c.pid)))
  | restartState {g T : String} {c : Child} {payload : Fields} : s.children g = some c →
      c.point.published = some T → publishRestartState c.environ T = some payload →
      sortKeys payload ∈ s.saved →
      Writes dumps s (.child g) .restartState (dumps (sortKeys payload))

theorem Writes.mono {writer : Writer} {name : ChannelFile} {content : Bytes}
    (h : s.Writes dumps writer name content) (hg : s.Grows s') :
    s'.Writes dumps writer name content := by
  cases h with
  | command hrequest hsaved => exact .command (hg.requests _ hrequest) (hg.saved _ hsaved)
  | status hc hsaved =>
      obtain ⟨c', hc', hbecomes⟩ := hg.children _ _ hc
      rw [← hbecomes.version, ← hbecomes.pid] at hsaved ⊢
      exact .status hc' (hg.saved _ hsaved)
  | restartState hc hpublished hpayload hsaved =>
      obtain ⟨c', hc', hbecomes⟩ := hg.children _ _ hc
      obtain ⟨hpublished', henviron⟩ := hbecomes.published _ hpublished
      rw [← henviron] at hpayload
      exact .restartState hc' hpublished' hpayload (hg.saved _ hsaved)

/-- What a writer has published: a child that has published its restart state is about
to exit. -/
structure Published (dumps : Fields → Bytes) (s : ChannelRun) (writer : Writer)
    (name : ChannelFile) (content : Bytes) : Prop where
  writes : s.Writes dumps writer name content
  restarted : ∀ g, name = .restartState → writer = .child g →
    ∃ c T, s.children g = some c ∧ c.point = .restarted T

theorem Published.mono {writer : Writer} {name : ChannelFile} {content : Bytes}
    (h : s.Published dumps writer name content) (hg : s.Grows s') :
    s'.Published dumps writer name content where
  writes := h.writes.mono hg
  restarted g hname hwriter := by
    obtain ⟨c, T, hc, hp⟩ := h.restarted g hname hwriter
    obtain ⟨c', hc', hbecomes⟩ := hg.children g c hc
    exact ⟨c', T, hc', hbecomes.restarted T hp⟩

/-- The files and the drafts are the work of those who may write them. -/
abbrev Filed (dumps : Fields → Bytes) (s : ChannelRun) : Prop :=
  s.directory.From (s.Writes dumps) (s.Published dumps)

theorem abandon_from {P Q : Writer → ChannelFile → Bytes → Prop} (e : SupervisorRun.Event)
    (h : s.directory.From P Q) : (s.abandon e).directory.From P Q := by
  unfold abandon
  split
  · exact h.abort _
  · exact h.abort _
  · exact h

theorem Filed.change (hknown : Known config s) (hwhole : s.directory.Whole)
    (h : Filed dumps s) (hs : s.Change config dumps loads s') : Filed dumps s' := by
  have hgrows := hs.grows hknown
  have hmono : s.directory.From (s'.Writes dumps) (s'.Published dumps) :=
    h.mono (fun _ _ _ hw => hw.mono hgrows) fun _ _ _ hp => hp.mono hgrows
  cases hs with
  | @supervised e => exact abandon_from e hmono
  | requested _ _ _ _ _ hrequests =>
      refine hmono.create (.command ?_ (.head _))
      simp only [writeJson, hrequests]
      exact .head _
  | launched => exact ((hmono.unlink _).unlink _).unlink _
  | commanded hd => exact hmono.replace hwhole hd fun name content hw => ⟨hw, nofun⟩
  | wrote hd => exact hmono.write hd
  | removed => exact hmono.unlink _
  | @acted _ g c hc _ hact =>
      cases hact with
      | stays => exact hmono
      | @report payload hp hpayload =>
          obtain rfl : statusPayload g c.version c.pid = payload := by
            unfold publishChildStatus at hpayload
            rw [hknown.channel g c hc] at hpayload
            exact Option.some.inj hpayload
          refine hmono.create ?_
          exact .status (c := { c with point := .reporting }) (children_setChild_self ..) (.head _)
      | reported _ hd =>
          refine hmono.replace hwhole hd fun name content hw => ⟨hw, ?_⟩
          rintro g' hname hwriter
          cases hwriter
          cases hw with
          | status => cases hname
          | restartState hc' hpublished =>
              -- a child that serves has published nothing
              rw [children_setChild_self] at hc'
              cases hc'
              cases hpublished
      | commanded => exact hmono
      | preserve => exact hmono
      | @requestRestart target environ payload hp hrequest =>
          obtain ⟨-, hpayload⟩ := requestRestart_environ hrequest
          refine hmono.create ?_
          exact .restartState (c := { c with environ := environ, point := .publishing target })
            (children_setChild_self ..) rfl hpayload (.head _)
      | @published d target _ hd =>
          refine hmono.replace hwhole hd fun name content hw => ⟨hw, ?_⟩
          rintro g' - hwriter
          cases hwriter
          exact ⟨_, target, children_setChild_self .., rfl⟩
  | @exited generation code removed =>
      have hdropped : ∀ P Q : Writer → ChannelFile → Bytes → Prop, s.directory.From P Q →
          (if removed then s.directory.abort (.child generation)
            else s.directory.crash (.child generation)).From P Q := by
        intro P Q hP
        split
        · exact hP.abort _
        · exact hP.crash _
      exact hdropped _ _ hmono

theorem filed (hroot : config.root ≠ "")
    (h : (channelRun config dumps loads environ).ReachableUnder C s) : Filed dumps s := by
  refine h.invariant (P := Filed dumps) .empty fun s e s' hr hok _ hs => ?_
  have hwhole : s.directory.Whole := (refines_directory hroot).invariant Directory.whole hr
  exact hok.change (known_drafting hroot hr).1 hwhole (step_change hs)

end ChannelRun
end PyFrp
