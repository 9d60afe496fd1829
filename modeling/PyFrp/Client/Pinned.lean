import PyFrp.Client.Run

/-!
# The connections of a pinned client

What is known of the connections in any state of a run, and how opening one keeps
it. As long as there is no trusted fingerprint the control task is the only one,
and nothing is written.
-/

namespace PyFrp

open Python Coop

namespace ClientRun

variable {settings : ClientSettings} {environ : Environment} {sha256 : Bytes → Digest}
  {pin₀ : Option String} {pending pending' : Nat → Prop} {s t : ClientRun}

/-- The certificate of the connection was found to be the trusted one. -/
def Matches (sha256 : Bytes → Digest) (s : ClientRun) (conn : Nat) : Prop :=
  ∃ k fingerprint pin, s.connections.get? conn = some k ∧ k.refused = false ∧
    peerFingerprint sha256 k.peer = .ok fingerprint ∧ s.trusted = some pin ∧
      fingerprintsEqual fingerprint pin = true

/-- The user is asked about the connection, and nothing is trusted yet. -/
def Asked (sha256 : Bytes → Digest) (s : ClientRun) (conn : Nat) (fingerprint : String) : Prop :=
  s.trusted = none ∧ ∃ k certificate, s.connections.get? conn = some k ∧ k.refused = false ∧
    k.peer = .tls (some certificate) ∧ peerFingerprint sha256 k.peer = .ok fingerprint

/-- Nothing is lost on the way from `s` to `t`. -/
structure Extends (sha256 : Bytes → Digest) (s t : ClientRun) : Prop where
  trusted : ∀ pin, s.trusted = some pin → t.trusted = some pin
  kept : ∀ conn, Matches sha256 s conn → Matches sha256 t conn

/-- Where the trusted fingerprint is from, if `pin₀` is what the client was given. -/
def Pinned (sha256 : Bytes → Digest) (pin₀ : Option String) (s : ClientRun) : Prop :=
  (s.trusted = pin₀ ∧ s.affirmed = []) ∨
    (pin₀ = none ∧ ∃ conn k certificate, s.affirmed = [conn] ∧ s.connections.get? conn = some k ∧
      k.peer = .tls (some certificate) ∧ s.trusted = some (formatFingerprint (sha256 certificate)))

/-- `pending` are the connections that the user has yet to answer for. -/
structure StoreOk (sha256 : Bytes → Digest) (pin₀ : Option String) (pending : Nat → Prop)
    (s : ClientRun) : Prop where
  written : ∀ conn k, s.connections.get? conn = some k → k.written ≠ [] → Matches sha256 s conn
  refused : ∀ conn k, s.connections.get? conn = some k → k.refused = true →
    k.closed = true ∧ k.written = []
  settled : ∀ conn k, s.connections.get? conn = some k → k.refused = false →
    Matches sha256 s conn ∨ pending conn
  pinned : Pinned sha256 pin₀ s

def Opening.Pending : Opening → Nat → Prop
  | .confirming conn _, c => c = conn
  | _, _ => False

/-- The user is asked about the connection, or was when the client was cancelled. -/
def ControlPoint.Pending : ControlPoint → Nat → Prop
  | .opening o, c => o.Pending c
  | .cancelling .cancelled, _ => True
  | .ended, _ => True
  | _, _ => False

/-- The user has yet to answer for the connection, and never will if the client was cancelled. -/
def Unanswered (s : ClientRun) (conn : Nat) : Prop := s.trusted = none ∧ s.control.Pending conn

def OpeningOk (sha256 : Bytes → Digest) (s : ClientRun) : Opening → Prop
  | .confirming conn fingerprint => Asked sha256 s conn fingerprint
  | _ => True

/-- The connections that the control task may write on. -/
def ControlOk (sha256 : Bytes → Digest) (s : ClientRun) : ControlPoint → Prop
  | .opening o => OpeningOk sha256 s o
  | .hello conn => Matches sha256 s conn
  | .helloReply conn => Matches sha256 s conn
  | .register conn _ => Matches sha256 s conn
  | .registerReply conn _ => Matches sha256 s conn
  | .confirmForce conn => Matches sha256 s conn
  | .serving conn => Matches sha256 s conn
  | .stopping conn _ => Matches sha256 s conn
  | _ => True

/-- The same for a tunnel. None is there before a fingerprint is trusted. -/
def TunnelOk (sha256 : Bytes → Digest) (s : ClientRun) (point : TunnelPoint) : Prop :=
  s.trusted ≠ none ∧
    match point with
    | .opening _ _ o => OpeningOk sha256 s o
    | .sending conn _ => Matches sha256 s conn
    | .relaying conn => Matches sha256 s conn
    | _ => True

structure Ok (sha256 : Bytes → Digest) (pin₀ : Option String) (s : ClientRun) : Prop where
  store : StoreOk sha256 pin₀ s.Unanswered s
  control : ControlOk sha256 s s.control
  heartbeat : ∀ h, s.heartbeat = some h → Matches sha256 s h.conn
  tunnels : ∀ i task, s.tunnels.get? i = some task → TunnelOk sha256 s task.point

/-! ## The connections -/

theorem Extends.refl : Extends sha256 s s := ⟨fun _ h => h, fun _ h => h⟩

theorem Extends.trans {u : ClientRun} (h₁ : Extends sha256 s t) (h₂ : Extends sha256 t u) :
    Extends sha256 s u :=
  ⟨fun pin h => h₂.trusted pin (h₁.trusted pin h), fun conn h => h₂.kept conn (h₁.kept conn h)⟩

theorem Matches.trusted {conn : Nat} (h : Matches sha256 s conn) : s.trusted ≠ none := by
  obtain ⟨_, _, pin, _, _, _, htrusted, _⟩ := h
  rw [htrusted]
  exact nofun

/-- A change of one connection that keeps its peer, and does not refuse it. -/
theorem Extends.modify {conn : Nat} {f : Connection → Connection}
    (hpeer : ∀ k, (f k).peer = k.peer) (hrefused : ∀ k, (f k).refused = k.refused) :
    Extends sha256 s { s with connections := s.connections.modify conn f } where
  trusted _ h := h
  kept other h := by
    obtain ⟨k, fingerprint, pin, hk, hnot, hpeerk, htrusted, hequal⟩ := h
    by_cases hother : other = conn
    · refine ⟨f k, fingerprint, pin, ?_, (hrefused k).trans hnot, ?_, htrusted, hequal⟩
      · rw [Heap.get?_modify, if_pos hother, hk]
        rfl
      · rw [hpeer]
        exact hpeerk
    · refine ⟨k, fingerprint, pin, ?_, hnot, hpeerk, htrusted, hequal⟩
      rw [Heap.get?_modify, if_neg hother, hk]

theorem Extends.write (conn : Nat) (w : Written) : Extends sha256 s (s.write conn w) :=
  Extends.modify (f := fun k => { k with written := k.written ++ [w] }) (fun _ => rfl) fun _ => rfl

theorem Extends.close (conn : Nat) : Extends sha256 s (s.close conn) :=
  Extends.modify (f := fun k => { k with closed := true }) (fun _ => rfl) fun _ => rfl

theorem Pinned.modify {conn : Nat} {f : Connection → Connection}
    (hpeer : ∀ k, (f k).peer = k.peer) (h : Pinned sha256 pin₀ s) :
    Pinned sha256 pin₀ { s with connections := s.connections.modify conn f } := by
  refine h.imp_right fun ⟨hnone, c, k, certificate, haffirmed, hk, hcert, htrusted⟩ => ?_
  by_cases hc : c = conn
  · refine ⟨hnone, c, f k, certificate, haffirmed, ?_, (hpeer k).trans hcert, htrusted⟩
    rw [Heap.get?_modify, if_pos hc, hk]
    rfl
  · refine ⟨hnone, c, k, certificate, haffirmed, ?_, hcert, htrusted⟩
    rw [Heap.get?_modify, if_neg hc, hk]

theorem StoreOk.mono (h : StoreOk sha256 pin₀ pending s)
    (hpending : ∀ c, pending c → pending' c) : StoreOk sha256 pin₀ pending' s where
  written := h.written
  refused := h.refused
  settled c k hk hnot := (h.settled c k hk hnot).imp_right (hpending c)
  pinned := h.pinned

/-- The connection that was in question is accepted. -/
theorem StoreOk.accept {conn : Nat} (h : StoreOk sha256 pin₀ (· = conn) s)
    (hm : Matches sha256 s conn) : StoreOk sha256 pin₀ pending s where
  written := h.written
  refused := h.refused
  settled c k hk hnot := by
    rcases h.settled c k hk hnot with hc | rfl
    · exact .inl hc
    · exact .inl hm
  pinned := h.pinned

/-- A change of one connection that writes on it only if it matches. -/
theorem StoreOk.modify {conn : Nat} {f : Connection → Connection}
    (h : StoreOk sha256 pin₀ pending s) (hpeer : ∀ k, (f k).peer = k.peer)
    (hrefused : ∀ k, (f k).refused = k.refused)
    (hwritten : ∀ k, s.connections.get? conn = some k → (f k).written ≠ [] → Matches sha256 s conn)
    (hclosed : ∀ k, s.connections.get? conn = some k → k.refused = true →
      (f k).closed = true ∧ (f k).written = []) :
    StoreOk sha256 pin₀ pending { s with connections := s.connections.modify conn f } where
  written other k hk hne := by
    refine (Extends.modify hpeer hrefused).kept other ?_
    rw [Heap.get?_modify] at hk
    split at hk
    · rename_i hother
      obtain ⟨k', hk', rfl⟩ := Option.map_eq_some_iff.mp hk
      rw [hother] at hk' ⊢
      exact hwritten k' hk' hne
    · exact h.written other k hk hne
  refused other k hk hr := by
    rw [Heap.get?_modify] at hk
    split at hk
    · rename_i hother
      obtain ⟨k', hk', rfl⟩ := Option.map_eq_some_iff.mp hk
      rw [hother] at hk'
      exact hclosed k' hk' ((hrefused k').symm.trans hr)
    · exact h.refused other k hk hr
  settled other k hk hnot := by
    refine Or.imp_left ((Extends.modify hpeer hrefused).kept other) ?_
    rw [Heap.get?_modify] at hk
    split at hk
    · obtain ⟨k', hk', rfl⟩ := Option.map_eq_some_iff.mp hk
      exact h.settled other k' hk' ((hrefused k').symm.trans hnot)
    · exact h.settled other k hk hnot
  pinned := h.pinned.modify hpeer

theorem StoreOk.write {conn : Nat} {w : Written} (h : StoreOk sha256 pin₀ pending s)
    (hm : Matches sha256 s conn) : StoreOk sha256 pin₀ pending (s.write conn w) := by
  refine h.modify (f := fun k => { k with written := k.written ++ [w] }) (fun _ => rfl)
    (fun _ => rfl) (fun _ _ _ => hm) ?_
  intro k hk hrefused
  obtain ⟨k', _, _, hk', hnot, -⟩ := hm
  rw [hk] at hk'
  cases hk'
  rw [hnot] at hrefused
  cases hrefused

theorem StoreOk.close {conn : Nat} (h : StoreOk sha256 pin₀ pending s) :
    StoreOk sha256 pin₀ pending (s.close conn) :=
  h.modify (f := fun k => { k with closed := true }) (fun _ => rfl) (fun _ => rfl)
    (h.written conn) fun k hk hrefused => ⟨rfl, (h.refused conn k hk hrefused).2⟩

/-- A connection that matches nothing is refused. -/
theorem Extends.refuse {conn : Nat} (hnot : ¬ Matches sha256 s conn) :
    Extends sha256 s (s.refuse conn) where
  trusted _ h := h
  kept other h := by
    have hother : other ≠ conn := by
      rintro rfl
      exact hnot h
    obtain ⟨k, fingerprint, pin, hk, hrest⟩ := h
    refine ⟨k, fingerprint, pin, ?_, hrest⟩
    rw [ClientRun.refuse, Heap.get?_modify, if_neg hother, hk]

theorem StoreOk.refuse {conn : Nat} (h : StoreOk sha256 pin₀ (· = conn) s)
    (hnot : ¬ Matches sha256 s conn) : StoreOk sha256 pin₀ pending (s.refuse conn) where
  written other k hk hwritten := by
    refine (Extends.refuse hnot).kept other ?_
    rw [ClientRun.refuse, Heap.get?_modify] at hk
    split at hk
    · obtain ⟨k', hk', rfl⟩ := Option.map_eq_some_iff.mp hk
      exact h.written other k' hk' hwritten
    · exact h.written other k hk hwritten
  refused other k hk hrefused := by
    rw [ClientRun.refuse, Heap.get?_modify] at hk
    split at hk
    · rename_i hother
      obtain ⟨k', hk', rfl⟩ := Option.map_eq_some_iff.mp hk
      refine ⟨rfl, ?_⟩
      by_contra hwritten
      exact hnot (hother ▸ h.written other k' hk' hwritten)
    · exact h.refused other k hk hrefused
  settled other k hk hrefused := by
    rw [ClientRun.refuse, Heap.get?_modify] at hk
    split at hk
    · obtain ⟨k', hk', rfl⟩ := Option.map_eq_some_iff.mp hk
      cases hrefused
    · rename_i hother
      refine .inl ((Extends.refuse hnot).kept other ?_)
      rcases h.settled other k hk hrefused with hm | hconn
      · exact hm
      · exact absurd hconn hother
  pinned := h.pinned.modify fun _ => rfl

/-- The connection is there. -/
def opened (s : ClientRun) (peer : PeerInfo) : ClientRun :=
  { s with connections := s.connections.alloc ⟨peer, false, [], false⟩ }

theorem Extends.opened (peer : PeerInfo) : Extends sha256 s (s.opened peer) where
  trusted _ h := h
  kept other h := by
    obtain ⟨k, fingerprint, pin, hk, hrest⟩ := h
    exact ⟨k, fingerprint, pin, Heap.get?_alloc_of_get? hk, hrest⟩

theorem get?_opened (peer : PeerInfo) :
    (s.opened peer).connections.get? s.connections.size = some ⟨peer, false, [], false⟩ := by
  rw [opened, Heap.get?_alloc, if_pos rfl]

theorem StoreOk.opened (h : StoreOk sha256 pin₀ (fun _ => False) s) (peer : PeerInfo) :
    StoreOk sha256 pin₀ (· = s.connections.size) (s.opened peer) where
  written other k hk hwritten := by
    rw [ClientRun.opened, Heap.get?_alloc] at hk
    split at hk
    · cases hk
      exact absurd rfl hwritten
    · exact (Extends.opened peer).kept other (h.written other k hk hwritten)
  refused other k hk hrefused := by
    rw [ClientRun.opened, Heap.get?_alloc] at hk
    split at hk
    · cases hk
      cases hrefused
    · exact h.refused other k hk hrefused
  settled other k hk hrefused := by
    rw [ClientRun.opened, Heap.get?_alloc] at hk
    split at hk
    · rename_i hother
      exact .inr hother
    · exact .inl ((Extends.opened peer).kept other
        ((h.settled other k hk hrefused).resolve_right id))
  pinned := h.pinned.imp_right fun ⟨hnone, c, k, certificate, haffirmed, hk, hrest⟩ =>
    ⟨hnone, c, k, certificate, haffirmed, Heap.get?_alloc_of_get? hk, hrest⟩

/-! ## Opening a connection -/

/-- What a step of `_open_server_connection` makes sure of. -/
def OpenedOk (sha256 : Bytes → Digest) (s : ClientRun) : Opened → Prop
  | .opening o => OpeningOk sha256 s o
  | .opened conn => Matches sha256 s conn
  | .raised _ => True

def Opened.Pending : Opened → Nat → Prop
  | .opening o, c => o.Pending c
  | _, _ => False

theorem OpenedOk.trusted {r : Opened} {conn : Nat} (h : OpenedOk sha256 s r)
    (hr : r.Pending conn) : s.trusted = none := by
  cases r with
  | opening o =>
      cases o with
      | confirming c fingerprint => exact h.1
      | connecting => cases hr
      | refusing c e => cases hr
  | opened c => cases hr
  | raised e => cases hr

/-- The tasks are left alone. -/
structure SameTasks (s t : ClientRun) : Prop where
  control : t.control = s.control
  heartbeat : t.heartbeat = s.heartbeat
  tunnels : t.tunnels = s.tunnels

theorem conclude_ok {conn : Nat} {fingerprint : String} {answer : Answer} {r : Opened}
    (h : StoreOk sha256 pin₀ (· = conn) s) (hasked : Asked sha256 s conn fingerprint)
    (hs : s.conclude conn fingerprint answer = (t, r)) :
    StoreOk sha256 pin₀ r.Pending t ∧ Extends sha256 s t ∧ OpenedOk sha256 t r ∧ SameTasks s t := by
  obtain ⟨htrusted, k, certificate, hk, hnot, hcert, hpeer⟩ := hasked
  have hnothing : ∀ c, ¬ Matches sha256 s c := fun c hm => hm.trusted htrusted
  unfold conclude at hs
  split at hs
  · rename_i pin hpin
    cases hs
    have hsame : pin = fingerprint := confirmFingerprint_eq hpin
    obtain ⟨c, hc, hformat⟩ := peerFingerprint_eq hpeer
    rw [hcert] at hc
    cases hc
    have hpinned : s.trusted = pin₀ ∧ s.affirmed = [] := by
      rcases h.pinned with hp | ⟨_, _, _, _, _, _, _, hp⟩
      · exact hp
      · rw [htrusted] at hp
        cases hp
    have hm : Matches sha256 { s with trusted := some pin, affirmed := conn :: s.affirmed } conn := by
      refine ⟨k, fingerprint, pin, hk, hnot, hpeer, rfl, ?_⟩
      rw [hsame, hformat]
      exact fingerprintsEqual_format (sha256 certificate).2
    refine ⟨⟨fun c k' hk' hwritten => ?_, h.refused, fun c k' hk' hnot' => ?_, ?_⟩,
      ⟨fun p hp => ?_, fun c hc => absurd hc (hnothing c)⟩, hm, ⟨rfl, rfl, rfl⟩⟩
    · exact absurd (h.written c k' hk' hwritten) (hnothing c)
    · have hc : c = conn := (h.settled c k' hk' hnot').resolve_left (hnothing c)
      exact .inl (hc ▸ hm)
    · refine .inr ⟨hpinned.1 ▸ htrusted, conn, k, certificate, ?_, hk, hcert, ?_⟩
      · show conn :: s.affirmed = [conn]
        rw [hpinned.2]
      · show some pin = _
        rw [hsame, hformat]
    · rw [htrusted] at hp
      cases hp
  · cases hs
    exact ⟨h.refuse (hnothing conn), Extends.refuse (hnothing conn), trivial, ⟨rfl, rfl, rfl⟩⟩

/-- What the verdict about a peer means. -/
inductive VerdictOk (sha256 : Bytes → Digest) (trusted : Option String) (peer : PeerInfo) :
    Verdict → Prop
  | accepted {fingerprint pin : String} (hpeer : peerFingerprint sha256 peer = .ok fingerprint)
      (htrusted : trusted = some pin) (hequal : fingerprintsEqual fingerprint pin = true) :
      VerdictOk sha256 trusted peer .accepted
  | refused {e : ClientError}
      (hnot : ∀ fingerprint pin, peerFingerprint sha256 peer = .ok fingerprint →
        trusted = some pin → fingerprintsEqual fingerprint pin = false) :
      VerdictOk sha256 trusted peer (.refused e)
  | asks {fingerprint : String} (htrusted : trusted = none)
      (hpeer : peerFingerprint sha256 peer = .ok fingerprint) :
      VerdictOk sha256 trusted peer (.asks fingerprint)

theorem verdictOk (sha256 : Bytes → Digest) (trusted : Option String) (peer : PeerInfo) :
    VerdictOk sha256 trusted peer (verifyServerFingerprint sha256 trusted peer) := by
  unfold verifyServerFingerprint
  cases hp : peerFingerprint sha256 peer with
  | error e =>
      refine .refused fun fingerprint pin hok => ?_
      rw [hp] at hok
      cases hok
  | ok fingerprint =>
      cases trusted with
      | none => exact .asks rfl hp
      | some pin =>
          show VerdictOk sha256 (some pin) peer
            (if fingerprintsEqual fingerprint pin then .accepted
              else .refused (.security fingerprintChanged))
          by_cases hequal : fingerprintsEqual fingerprint pin = true
          · rw [if_pos hequal]
            exact .accepted hp rfl hequal
          · rw [if_neg hequal]
            refine .refused fun shown given hok hgiven => ?_
            rw [hp] at hok
            cases hok
            cases hgiven
            exact Bool.eq_false_iff.mpr hequal

theorem open_ok {o : Opening} {e : OpenEvent} {r : Opened}
    (h : StoreOk settings.sha256 pin₀ o.Pending s) (ho : OpeningOk settings.sha256 s o)
    (hs : openServerConnection settings s o e = some (t, r)) :
    StoreOk settings.sha256 pin₀ r.Pending t ∧ Extends settings.sha256 s t ∧
      OpenedOk settings.sha256 t r ∧ SameTasks s t := by
  unfold openServerConnection at hs
  split at hs
  · rename_i peer answer
    have hstore : StoreOk settings.sha256 pin₀ (· = s.connections.size) (s.opened peer) :=
      StoreOk.opened (h.mono fun _ hc => hc) peer
    have hext : Extends settings.sha256 s (s.opened peer) := .opened peer
    have hget := get?_opened (s := s) peer
    have hverdict := verdictOk settings.sha256 s.trusted peer
    dsimp only at hs
    split at hs
    · rename_i haccepted
      cases hs
      rw [haccepted] at hverdict
      cases hverdict with
      | accepted hpeer htrusted hequal =>
          have hm : Matches settings.sha256 (s.opened peer) s.connections.size :=
            ⟨_, _, _, hget, rfl, hpeer, htrusted, hequal⟩
          exact ⟨hstore.accept hm, hext, hm, ⟨rfl, rfl, rfl⟩⟩
    · rename_i e hrefused
      cases hs
      rw [hrefused] at hverdict
      cases hverdict with
      | refused hverdict =>
          have hnot : ¬ Matches settings.sha256 (s.opened peer) s.connections.size := by
            rintro ⟨k, fingerprint, pin, hk, -, hpeer, htrusted, hequal⟩
            rw [hget] at hk
            cases hk
            rw [hverdict fingerprint pin hpeer htrusted] at hequal
            cases hequal
          exact ⟨hstore.refuse hnot, hext.trans (.refuse hnot), trivial, ⟨rfl, rfl, rfl⟩⟩
    · rename_i fingerprint hasks
      rw [hasks] at hverdict
      cases hverdict with
      | asks htrusted hpeer =>
          obtain ⟨certificate, hcert, -⟩ := peerFingerprint_eq hpeer
          have hasked : Asked settings.sha256 (s.opened peer) s.connections.size fingerprint :=
            ⟨htrusted, _, certificate, hget, rfl, hcert, hpeer⟩
          split at hs
          · obtain ⟨hstore', hext', hopened, hsame⟩ :=
              conclude_ok hstore hasked (Option.some.inj hs)
            exact ⟨hstore', hext.trans hext', hopened, hsame.control, hsame.heartbeat,
              hsame.tunnels⟩
          · cases hs
            exact ⟨hstore.mono fun _ hc => hc, hext, hasked, ⟨rfl, rfl, rfl⟩⟩
  · cases hs
    exact ⟨h.mono fun _ hc => hc, .refl, trivial, ⟨rfl, rfl, rfl⟩⟩
  · exact conclude_ok (h.mono fun _ hc => hc) ho (Option.some.inj hs)
  · cases hs
    exact ⟨h.mono fun _ hc => hc, .refl, trivial, ⟨rfl, rfl, rfl⟩⟩
  · cases hs

end ClientRun

end PyFrp
