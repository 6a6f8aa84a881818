import SipAgent.Proofs.Session.Asking
import SipAgent.Proofs.Session.Handling
import SipAgent.Transport.Recorder

/-!
# What a refused command leaves

Many commands can fail, some of them as the second or third of a step, when fields may have been
overwritten and effects been gathered already. `Workspace.handle_of_refused` says that it is all the
same which one does, in which state and about which event: the session asks for nothing more, goes
back to its idle state as a whole, and its listener is told once, and of nothing else. Only giving
up a dialog may fail without that anything comes of it.
-/

namespace SipAgent

/-- The command gives up a dialog. -/
def Command.givesUp : Command → Prop
  | .terminateDialog _ => True
  | _ => False

namespace Session

variable {σ : Type} {profile : Profile} {s : Session} {e : SessionEvent}

/-! ### What is only attempted -/

/-- The success of every command of a script matters, unless it gives up a dialog. -/
abbrev Insists (script : Script Outcome) : Prop :=
  script.Gives .nothing (fun _ => True) Command.givesUp

lemma insists_script (profile : Profile) (fresh : SessionId) (s : Session) (e : SessionEvent) :
    Insists (s.script profile fresh e) := by
  refine (gives_script profile fresh s e).mono (fun _ _ => trivial) ?_
  rintro c ⟨d, -, rfl⟩
  trivial

/-! ### What a refusal leaves -/

/-- If the network refuses a command that does not give up a dialog, the script ends there, and the
session fails as a whole. -/
lemma process_of_refused [Transport σ] (profile : Profile) (fresh : SessionId) (s : Session)
    (e : SessionEvent) (net : σ) {call : Call} {cause : TransportError}
    (hcall : call ∈ (s.process profile fresh e (Journal.opened net)).2.calls)
    (hrefused : call.refused = some cause) (hcommand : ¬ call.command.givesUp) :
    let o := (s.process profile fresh e (Journal.opened net)).1
    (∃ earlier, (s.process profile fresh e (Journal.opened net)).2.calls = earlier ++ [call] ∧
      ∀ other ∈ earlier, other.refused ≠ none → other.command.givesUp) ∧
    o.processed = true ∧ o.session = idle s.id s.role ∧
    o.keyChanges = (s.key.map (KeyChange.unbind s.id)).toList ∧ o.spawned = none ∧
    ∃ code message,
      o.reports = [⟨s.id, if s.state.isRegistration ∨ e.isRegistration
        then .registrationFailed code message else .error code message⟩] ∧
      (code = .serverUnreachable ↔ ∃ detail, cause = .unreachable detail) ∧
      (code ≠ .serverUnreachable → code = .socketError) := by
  intro o
  simp only [o, Journal.opened, process_journal, List.nil_append] at hcall ⊢
  obtain ⟨hlast, hrun⟩ :=
    (insists_script profile fresh s e).run_of_refused (Promise.nothing_keptBy σ) hcall hrefused
      hcommand
  have hfailed : (s.process profile fresh e net).1 = s.transportFailed e cause := by
    rw [process_fst, hrun]
    rfl
  rw [hfailed]
  refine ⟨hlast, rfl, rfl, ?_, rfl, ?_⟩
  · change s.unbound = _
    unfold unbound
    cases s.key <;> rfl
  · have hnotice : ∀ code message,
        failureNotice (s.state.isRegistration || e.isRegistration) code message =
          if s.state.isRegistration ∨ e.isRegistration
            then .registrationFailed code message else .error code message := by
      intro code message
      simp only [failureNotice, Bool.or_eq_true]
    cases cause with
    | unreachable detail =>
      refine ⟨.serverUnreachable, _, by rw [← hnotice]; rfl, ?_, fun h => absurd rfl h⟩
      exact iff_of_true rfl ⟨detail, rfl⟩
    | sendFailed | noTransaction | closed =>
      refine ⟨.socketError, _, by rw [← hnotice]; rfl, ?_, fun _ => rfl⟩
      exact iff_of_false (by decide) (by simp)

end Session

namespace Workspace

/-- The workspace of a network of which nothing has been asked yet. -/
def opened (w : Workspace σ) : Workspace (Journal σ) :=
  ⟨w.session, w.effects, Journal.opened w.network⟩

variable {w : Workspace σ}

/-- If the network refuses a command that does not give up a dialog, at whatever point of an event's
handling, it is the last one, and none before it was refused. The event counts as consumed, the
session is idle, and to the effects are added only that it lets go of the key it had, and one notice
to its listener: that the registration failed if one was under way or asked for, and of an error
otherwise. -/
theorem handle_of_refused [Transport σ] (profile : Profile) (fresh : SessionId) (e : SessionEvent)
    (w : Workspace σ) {call : Call} {cause : TransportError}
    (hcall : call ∈ (w.opened.handle profile fresh e).2.network.calls)
    (hrefused : call.refused = some cause) (hcommand : ¬ call.command.givesUp) :
    let p := w.opened.handle profile fresh e
    (∃ earlier, p.2.network.calls = earlier ++ [call] ∧
      ∀ other ∈ earlier, other.refused ≠ none → other.command.givesUp) ∧
    p.1 = true ∧ p.2.session = Session.idle w.session.id w.session.role ∧
    p.2.effects.keyChanges =
      w.effects.keyChanges ++ (w.session.key.map (KeyChange.unbind w.session.id)).toList ∧
    p.2.effects.spawned = w.effects.spawned ∧
    ∃ code message,
      p.2.effects.reports = w.effects.reports ++
        [⟨w.session.id, if w.session.state.isRegistration ∨ e.isRegistration
          then .registrationFailed code message else .error code message⟩] ∧
      (code = .serverUnreachable ↔ ∃ detail, cause = .unreachable detail) ∧
      (code ≠ .serverUnreachable → code = .socketError) := by
  intro p
  simp only [p, handle_eq] at hcall ⊢
  obtain ⟨hlast, hprocessed, hsession, hkeys, hspawned, code, message, hreports, hcode⟩ :=
    Session.process_of_refused profile fresh w.session e w.network hcall hrefused hcommand
  refine ⟨hlast, hprocessed, hsession, congrArg _ hkeys, ?_, code, message, ?_, hcode⟩
  · change w.effects.spawned ++ Option.toList _ = _
    rw [opened, hspawned]
    exact List.append_nil _
  · exact congrArg _ hreports

end Workspace

/-- A network that goes down after some commands. -/
structure Faltering (σ : Type) where
  network : σ
  left : Nat

instance [Transport σ] : Transport (Faltering σ) where
  perform c net :=
    match net.left with
    | 0 => (.error (.unreachable "network down"), net)
    | left + 1 =>
      let (result, network) := Transport.perform c net.network
      (result, ⟨network, left⟩)
  freshTag net :=
    let (tag, network) := Transport.freshTag net.network
    (tag, { net with network := network })
  localAddress net := Transport.localAddress net.network

/-- An invitation is taken back. The network answers that, but goes down before the invitation
itself is answered. -/
theorem Workspace.handle_of_refused_of_withdrawal :
    let caller := Peer.ofUri ⟨some "bob", "localhost", none⟩
    let invite : Request := ⟨.invite, ⟨"call"⟩, ⟨"invite"⟩, caller, [], none⟩
    let cancel : Request := { invite with method := .cancel }
    let s : Session :=
      { Session.idle 0 .dialog with
        state := .incomingCall, key := some invite.callId, invite := some invite }
    let w : Workspace (Faltering Recorder) := ⟨s, Effects.none, ⟨Recorder.ofHost "localhost", 1⟩⟩
    let p := w.opened.handle (Profile.ofUri ⟨some "alice", "localhost", none⟩ "") 1 (.request cancel)
    p.1 = true ∧ p.2.session = Session.idle 0 .dialog ∧
      p.2.effects.keyChanges = [.unbind 0 invite.callId] ∧ p.2.effects.spawned = [] ∧
      ∃ code message, p.2.effects.reports = [⟨0, .error code message⟩] ∧
        code = .serverUnreachable := by
  intro caller invite cancel s w p
  have hcall : ⟨.respond invite 487, some (.unreachable "network down")⟩ ∈ p.2.network.calls :=
    List.mem_of_getLast? rfl
  obtain ⟨-, hprocessed, hsession, hkeys, hspawned, code, message, hreports, hcode, -⟩ :=
    handle_of_refused _ 1 (.request cancel) w hcall rfl (by rintro ⟨⟩)
  exact ⟨hprocessed, hsession, hkeys, hspawned, code, message, hreports, hcode.mpr ⟨_, rfl⟩⟩

end SipAgent
