import SipAgent.Proofs.Group.Account
import SipAgent.Proofs.Session.Acceptance
import SipAgent.Proofs.Supervisor.Engaged

/-!
# What the registrar grants

A successful answer to a registration that is under way grants a lifetime of at least one second, so
it is never taken for the end of a registration. The session says so and is idle again, and nothing
is asked of the network: `Session.process_of_granted`, and `Group.act_of_grants` for the session of
a supervisor.
-/

namespace SipAgent

namespace Response

/-! ### What a response states -/

/-- The lifetimes that the registrar states. -/
def stated (r : Response) : List UInt32 :=
  r.contactExpires.toList ++ r.expires.toList

lemma statedExpiry_eq_none_iff (r : Response) : r.statedExpiry = none ↔ r.stated = [] := by
  unfold statedExpiry stated
  cases r.contactExpires <;> cases r.expires <;> simp

/-- The shortest of the lifetimes that are stated counts. -/
lemma mem_stated_of_statedExpiry {r : Response} {time : UInt32} (h : r.statedExpiry = some time) :
    time ∈ r.stated ∧ ∀ other ∈ r.stated, time.toNat ≤ other.toNat := by
  unfold statedExpiry at h
  unfold stated
  cases hcontact : r.contactExpires with
  | none =>
    cases hheader : r.expires with
    | none =>
      rw [hcontact, hheader] at h
      cases h
    | some header =>
      rw [hcontact, hheader] at h
      cases h
      simp
  | some contact =>
    cases hheader : r.expires with
    | none =>
      rw [hcontact, hheader] at h
      cases h
      simp
    | some header =>
      rw [hcontact, hheader, Option.some.injEq] at h
      subst h
      split
      · next hlt => simpa using Nat.le_of_lt (UInt32.lt_iff_toNat_lt.mp hlt)
      · next hle =>
        rw [UInt32.lt_iff_toNat_lt] at hle
        simpa using Nat.not_lt.mp hle

/-! ### What it grants -/

/-- The lifetime that is granted as far as the minimum of the registrar does not matter. -/
def offered (r : Response) : UInt32 :=
  match r.statedExpiry with
  | some time => if time = 0 then defaultExpiry else time
  | none => defaultExpiry

/-- The seconds that the registrar takes at least. -/
def least (r : Response) : ℕ :=
  r.minExpires.elim 0 UInt32.toNat

lemma toNat_negotiatedExpiry (r : Response) :
    r.negotiatedExpiry.toNat = max r.offered.toNat r.least := by
  have hsame : r.negotiatedExpiry =
      match r.minExpires with
      | some least => if r.offered < least then least else r.offered
      | none => r.offered := rfl
  rw [hsame]
  unfold least
  cases r.minExpires with
  | none => exact (Nat.max_eq_left (Nat.zero_le _)).symm
  | some least =>
    dsimp only [Option.elim]
    split
    · next hlt => exact (Nat.max_eq_right (Nat.le_of_lt (UInt32.lt_iff_toNat_lt.mp hlt))).symm
    · next hle =>
      rw [UInt32.lt_iff_toNat_lt] at hle
      exact (Nat.max_eq_left (Nat.not_lt.mp hle)).symm

/-- Without a lifetime that lasts, an hour is granted. A zero is the shortest of all. -/
lemma offered_of_zero {r : Response} (h : r.stated = [] ∨ 0 ∈ r.stated) :
    r.offered = defaultExpiry := by
  unfold offered
  cases hstated : r.statedExpiry with
  | none => rfl
  | some time =>
    obtain ⟨hmem, hleast⟩ := mem_stated_of_statedExpiry hstated
    have hzero : time = 0 := by
      rcases h with hnone | hzero
      · rw [hnone] at hmem
        cases hmem
      · exact UInt32.toNat_inj.mp (Nat.le_zero.mp (hleast 0 hzero))
    exact if_pos hzero

/-- Otherwise nothing that is stated is exceeded. -/
lemma offered_le {r : Response} (h : 0 ∉ r.stated) :
    ∀ time ∈ r.stated, r.offered.toNat ≤ time.toNat := by
  intro time htime
  unfold offered
  cases hstated : r.statedExpiry with
  | none =>
    rw [(r.statedExpiry_eq_none_iff).mp hstated] at htime
    cases htime
  | some shortest =>
    obtain ⟨hmem, hleast⟩ := mem_stated_of_statedExpiry hstated
    have hlasts : shortest ≠ 0 := fun hzero => h (hzero ▸ hmem)
    dsimp only
    rw [if_neg hlasts]
    exact hleast time htime

/-- Whatever the registrar states, it grants something. -/
lemma negotiatedExpiry_pos (r : Response) : 0 < r.negotiatedExpiry.toNat := by
  have hdefault : 0 < defaultExpiry.toNat := by decide
  have hoffered : 0 < r.offered.toNat := by
    unfold offered
    split
    · split
      · exact hdefault
      · next hne => exact Nat.pos_of_ne_zero fun hzero => hne (UInt32.toNat_inj.mp hzero)
    · exact hdefault
  rw [toNat_negotiatedExpiry]
  exact Nat.lt_of_lt_of_le hoffered (Nat.le_max_left _ _)

/-- The seconds that the supervisor is told when it gets what it asked for. -/
def lifetime (r : Response) : Nat :=
  min r.negotiatedExpiry.toNat 0x7fffffff

lemma coe_lifetime (r : Response) :
    (r.lifetime : Int) = min (r.negotiatedExpiry.toNat : Int) 0x7fffffff := by
  unfold lifetime
  omega

lemma lifetime_pos (r : Response) : 0 < r.lifetime :=
  Nat.lt_min.mpr ⟨r.negotiatedExpiry_pos, by decide⟩

end Response

namespace Session

variable {σ : Type} [Transport σ] {s : Session} {r : Response}

/-- A session that gets what it asked for is idle again, and says for how long. -/
lemma process_of_granted (profile : Profile) (fresh : SessionId) (hrole : s.role = .dialog)
    (hstate : s.state = .registering) (hmethod : r.method = .register)
    (hsuccess : isSuccess r.status = true) (net : σ) :
    s.process profile fresh (.response r) net =
      ((s.attaching (.response r)).finished (.registrationDone r.lifetime), net) := by
  have hscript : s.script profile fresh (.response r) =
      .done ((s.attaching (.response r)).finished (.registrationDone r.lifetime)) := by
    simp [script_of_dialog hrole, dialogScript, stateRule, hstate, registeringRule, hmethod,
      registrationResponse, not_isProvisional_of_isSuccess hsuccess, hsuccess, grantedDuration,
      r.coe_lifetime]
  unfold process
  rw [hscript]
  rfl

/-- A session that gets what it asked for says for how long: for some time, and for the minimum of
the registrar at least, as far as the number can be said. It is for no longer than the registrar
states, unless that is less than its minimum, or it states a lifetime of zero; then, and if it
states none, it is for an hour, or the minimum if that is longer. -/
theorem reports_granted_lifetime (profile : Profile) (fresh : SessionId) (hrole : s.role = .dialog)
    (hstate : s.state = .registering) (hmethod : r.method = .register)
    (hsuccess : isSuccess r.status = true) (net : σ) :
    ∃ lifetime : ℕ,
      (s.process profile fresh (.response r) net).1.reports =
        [⟨s.id, .registrationDone lifetime⟩] ∧
      0 < lifetime ∧ min r.least 0x7fffffff ≤ lifetime ∧
      (0 ∉ r.stated → ∀ time ∈ r.stated, lifetime ≤ time.toNat ∨ time.toNat < r.least) ∧
      (r.stated = [] ∨ 0 ∈ r.stated → lifetime = min (max 3600 r.least) 0x7fffffff) := by
  have hlifetime : r.lifetime = min (max r.offered.toNat r.least) 0x7fffffff := by
    rw [← r.toNat_negotiatedExpiry]
    rfl
  refine ⟨r.lifetime, ?_, r.lifetime_pos, ?_, fun hlasts time htime => ?_, fun hzero => ?_⟩
  · rw [process_of_granted profile fresh hrole hstate hmethod hsuccess, finished, attaching_id]
  · rw [hlifetime]
    omega
  · have hle := Response.offered_le hlasts time htime
    rw [hlifetime]
    omega
  · rw [hlifetime, Response.offered_of_zero hzero]
    rfl

/-- A session that has asked for a registration for an hour. -/
def registeringForHour (profile : Profile) : Session :=
  ((idle 0 .dialog).process profile 1 (.register 3600) (Recorder.ofHost "localhost")).1.session

/-- The registrar states a quarter of an hour and half an hour, but takes no less than twenty
minutes. -/
theorem reports_granted_lifetime_of_minimum :
    let profile := Profile.ofUri ⟨some "alice", "localhost", none⟩ ""
    let s := registeringForHour profile
    let r : Response := { Response.answering ⟨⟨"branch"⟩, .register, ⟨"call"⟩⟩ 200 "OK" with
      expires := some 900, contactExpires := some 1800, minExpires := some 1200 }
    s.role = .dialog ∧ s.state = .registering ∧ r.method = .register ∧
      isSuccess r.status = true ∧ ∃ lifetime : ℕ,
        (s.process profile 1 (.response r) (Recorder.ofHost "localhost")).1.reports =
          [⟨0, .registrationDone lifetime⟩] ∧
        1200 ≤ lifetime ∧ lifetime ≤ 1800 := by
  intro profile s r
  have hrole : s.role = .dialog := by decide +kernel
  have hstate : s.state = .registering := by decide +kernel
  have hid : s.id = 0 := by decide +kernel
  obtain ⟨lifetime, hreports, -, hleast, hstated, -⟩ :=
    reports_granted_lifetime profile 1 hrole hstate (r := r) rfl (by decide)
      (Recorder.ofHost "localhost")
  rw [hid] at hreports
  have hlonger := hstated (by decide) 1800 (by decide)
  exact ⟨hrole, hstate, rfl, by decide, lifetime, hreports, hleast,
    hlonger.resolve_right (by decide)⟩

/-- The registrar grants a minute to the contact, but a header says zero: the session says that it
is registered for an hour. -/
theorem zero_header_exceeds_grant :
    let profile := Profile.ofUri ⟨some "alice", "localhost", none⟩ ""
    let s := registeringForHour profile
    let r : Response := { Response.answering ⟨⟨"branch"⟩, .register, ⟨"call"⟩⟩ 200 "OK" with
      expires := some 0, contactExpires := some 60 }
    s.role = .dialog ∧ s.state = .registering ∧ r.method = .register ∧
      isSuccess r.status = true ∧ r.minExpires = none ∧
      (s.process profile 1 (.response r) (Recorder.ofHost "localhost")).1.reports =
        [⟨0, .registrationDone 3600⟩] ∧
      60 ∈ r.stated ∧ ¬ 3600 ≤ (60 : UInt32).toNat := by
  intro profile s r
  exact ⟨by decide +kernel, by decide +kernel, rfl, by decide, rfl, by decide +kernel,
    by decide, by decide⟩

end Session

namespace Group

variable {σ : Type} {g : Group σ} {r : Response}

/-- The response grants what the session of a supervisor that is running has asked for. -/
def grants (g : Group σ) (r : Response) : Bool :=
  !g.closed && decide (r.method = .register) && Session.isSuccess r.status &&
    (g.registry.resolve r.callId).any fun id => g.supervises id && g.stateOf id = .registering

lemma grants_iff : g.grants r = true ↔
    g.closed = false ∧ r.method = .register ∧ Session.isSuccess r.status = true ∧
      g.supervisor.running = true ∧ ∃ id, g.supervisor.session = some id ∧
        g.registry.resolve r.callId = some id ∧ g.stateOf id = .registering := by
  simp only [grants, supervises, Bool.and_eq_true, Bool.not_eq_true', decide_eq_true_eq,
    Option.any_eq_true]
  constructor
  · rintro ⟨⟨⟨hopen, hmethod⟩, hsuccess⟩, id, hresolve, ⟨hrunning, hid⟩, hstate⟩
    exact ⟨hopen, hmethod, hsuccess, hrunning, id, hid, hresolve, hstate⟩
  · rintro ⟨hopen, hmethod, hsuccess, hrunning, id, hid, hresolve, hstate⟩
    exact ⟨⟨⟨hopen, hmethod⟩, hsuccess⟩, id, hresolve, ⟨hrunning, hid⟩, hstate⟩

variable [Transport σ]

/-- A grant reaches the supervisor as it was made, and leaves the session idle. -/
lemma act_of_grants (hg : Sound g) (hattended : Attended g) (h : g.grants r = true) :
    ∃ id, g.supervisor.session = some id ∧
      (g.act (.signal (.response r))).group = (g.dispatch id (.response r)).group ∧
      (g.act (.signal (.response r))).deliveries =
        [⟨.supervisor, id, .registrationDone r.lifetime⟩] ∧
      (g.act (.signal (.response r))).result = .consumed true ∧
      (g.act (.signal (.response r))).group.stateOf id = .ready := by
  obtain ⟨hopen, hmethod, hsuccess, hrunning, id, hid, hresolve, hstate⟩ := grants_iff.mp h
  obtain ⟨s, a, hcell, hs, ha⟩ := hattended.cell id hid
  obtain rfl : a = .supervisor := ha.of_running hrunning
  have hnumber : s.id = id := hg.numbered id s (session?_eq_some.mpr ⟨_, hcell⟩)
  rw [stateOf_of_cell hcell] at hstate
  have hprocess := Session.process_of_granted g.profile g.cells.length hs.role hstate hmethod
    hsuccess g.network
  have hact : g.act (.signal (.response r)) =
      answering (g.dispatch id (.response r)) .consumed := by
    simp only [act, processSignal, hopen, Bool.false_eq_true, if_false, Signal.key, hresolve,
      SessionEvent.ofSignal]
  have hdeliveries : (g.dispatch id (.response r)).deliveries =
      [⟨.supervisor, id, .registrationDone r.lifetime⟩] := by
    rw [dispatch_deliveries hcell]
    simp only [outcomeOf, hprocess, Session.finished, Session.attaching_id, hnumber,
      List.map_cons, List.map_nil]
  have hresult : (g.dispatch id (.response r)).result = true := by
    rw [dispatch_eq hcell]
    simp only [outcomeOf, hprocess, Session.finished]
  have hready : (g.dispatch id (.response r)).group.stateOf id = .ready := by
    rw [stateOf_of_cell (dispatch_cells_self hcell _)]
    simp only [outcomeOf, hprocess, Session.finished]
    rfl
  rw [hact]
  exact ⟨id, hid, rfl, hdeliveries, congrArg Answer.consumed hresult, hready⟩

/-- Nothing else tells the supervisor of a grant. -/
lemma grants_of_told (hattended : Attended g) (hopen : g.closed = false)
    (hrunning : g.supervisor.running = true) {id : SessionId}
    (hid : g.supervisor.session = some id) {s : Signal}
    (hresolve : g.registry.resolve s.key = some id) {d : Delivery}
    (hd : d ∈ (g.dispatch id (.ofSignal s)).deliveries) {duration : Int} (hpos : 0 < duration)
    (hnotice : d.notice = .registrationDone duration) :
    ∃ r, s = .response r ∧ g.grants r = true := by
  obtain ⟨t, a, hcell, ht, -⟩ := hattended.cell id hid
  rw [dispatch_deliveries hcell] at hd
  obtain ⟨report, hreport, rfl⟩ := List.mem_map.mp hd
  obtain ⟨r, he, -, hmethod, hsuccess, rfl⟩ :=
    Session.response_of_done g.profile g.cells.length ht.role g.network hreport hnotice
  obtain rfl : s = .response r := by
    cases s <;> cases he
    rfl
  have hstate : t.state = .registering := by
    unfold Session.grantedDuration at hpos
    split at hpos
    · assumption
    · exact absurd hpos (by decide)
  exact ⟨r, rfl, grants_iff.mpr ⟨hopen, hmethod, hsuccess, hrunning, id, hid, hresolve,
    (stateOf_of_cell hcell).trans hstate⟩⟩

end Group

end SipAgent
