import SipAgent.Proofs.Session.Script

/-!
# A network with a journal

`Journal` puts a record of all commands in front of a network: what was asked, in which order, and
what the network refused. The network does not notice, `Script.run_journal`, so what is shown with a
journal is a fact about the bare network, and nothing that is asked of it can be missing.
-/

namespace SipAgent

/-- A command that was given to a network, and why the network refused it, if it did. -/
structure Call where
  command : Command
  refused : Option TransportError
  deriving DecidableEq

/-- Why a command did not succeed. -/
def refusal {α : Type} : Except TransportError α → Option TransportError
  | .ok _ => none
  | .error cause => some cause

/-- A network, and all that was asked of it, oldest first. -/
structure Journal (σ : Type) where
  network : σ
  calls : List Call

namespace Journal

variable {σ : Type} [Transport σ]

/-- A network of which nothing has been asked yet. -/
def opened (net : σ) : Journal σ :=
  ⟨net, []⟩

/-- Carry out a command, and write it down. -/
def perform (c : Command) (journal : Journal σ) : Except TransportError c.Reply × Journal σ :=
  let (result, net) := Transport.perform c journal.network
  (result, ⟨net, journal.calls ++ [⟨c, refusal result⟩]⟩)

/-- Only commands are written down. -/
instance : Transport (Journal σ) where
  perform := perform
  freshTag journal :=
    let (tag, net) := Transport.freshTag journal.network
    (tag, { journal with network := net })
  localAddress journal := Transport.localAddress journal.network

/-- What a network promises, it promises behind a journal. -/
lemma keptBy {R : Promise} (h : R.KeptBy σ) : R.KeptBy (Journal σ) := by
  intro c journal journal' reply hreply
  rcases hresult : Transport.perform c journal.network with ⟨result, net⟩
  change perform c journal = _ at hreply
  rw [perform, hresult] at hreply
  cases hreply
  exact h c journal.network net reply hresult

end Journal

/-! ### The calls of a script -/

namespace Script

variable {α σ : Type} [Transport σ]

/-- The calls of a run, in order. -/
def calls : Script α → σ → List Call
  | .done _, _ => []
  | .fail _, _ => []
  | .send c next, net =>
    match Transport.perform c net with
    | (.ok reply, net) => ⟨c, none⟩ :: (next reply).calls net
    | (.error cause, _) => [⟨c, some cause⟩]
  | .attempt c next, net =>
    let (result, net) := Transport.perform c net
    ⟨c, refusal result⟩ :: next.calls net
  | .freshTag next, net =>
    let (tag, net) := Transport.freshTag net
    (next tag).calls net

@[simp] lemma calls_done (value : α) (net : σ) : (Script.done value).calls net = [] := rfl

@[simp] lemma calls_fail (cause : TransportError) (net : σ) :
    (Script.fail cause : Script α).calls net = [] := rfl

/-- A command that is carried out is the first of the calls. -/
lemma calls_send_of_perform {c : Command} {next : c.Reply → Script α} {net net' : σ}
    {reply : c.Reply} (h : Transport.perform c net = (.ok reply, net')) :
    (Script.send c next).calls net = ⟨c, none⟩ :: (next reply).calls net' := by
  rw [calls, h]

/-- A script that gives a single command. -/
lemma calls_send {c : Command} {next : c.Reply → Script α}
    (h : ∀ reply (net : σ), (next reply).calls net = []) (net : σ) :
    ∃ refused, (Script.send c next).calls net = [⟨c, refused⟩] := by
  rcases hresult : Transport.perform c net with ⟨cause | reply, net'⟩
  · exact ⟨some cause, by simp only [calls, hresult]⟩
  · exact ⟨none, by simp only [calls, hresult, h]⟩

/-- Whatever comes of it, a script that gives a single command asks for just that. -/
lemma map_command_calls_send (c : Command) (next : c.Reply → α) (net : σ) :
    ((Script.send c fun reply => .done (next reply)).calls net).map (·.command) = [c] := by
  obtain ⟨refused, hcalls⟩ : ∃ refused,
      (Script.send c fun reply => .done (next reply)).calls net = [⟨c, refused⟩] :=
    calls_send (fun _ _ => rfl) net
  rw [hcalls]
  rfl

/-- A single command is carried out, and the script gets through, or the script fails. -/
lemma run_send_done (c : Command) (next : c.Reply → α) (net : σ) :
    (∃ cause, ((Script.send c fun reply => .done (next reply)).run net).1 = .error cause) ∨
      ∃ reply, ((Script.send c fun reply => .done (next reply)).run net).1 = .ok (next reply) ∧
        (Script.send c fun reply => .done (next reply)).calls net = [⟨c, none⟩] := by
  rcases hresult : Transport.perform c net with ⟨cause | reply, net'⟩
  · exact .inl ⟨cause, by rw [run, hresult]⟩
  · refine .inr ⟨reply, ?_, calls_send_of_perform hresult⟩
    rw [run_send_of_perform hresult]
    rfl

/-- A command that the network refused is among the calls. -/
lemma exists_refused {script : Script α} {net : σ} (h : (script.refusal? net).isSome) :
    ∃ call ∈ script.calls net, call.refused ≠ none := by
  induction script generalizing net with
  | done value => cases h
  | fail cause => cases h
  | send c next ih =>
    rcases hreply : Transport.perform c net with ⟨cause | reply, net'⟩
    · simp only [calls, hreply]
      exact ⟨_, List.mem_singleton_self _, by simp⟩
    · simp only [calls, refusal?, hreply] at h ⊢
      obtain ⟨call, hcall, hrefused⟩ := ih reply h
      exact ⟨call, List.mem_cons_of_mem _ hcall, hrefused⟩
  | attempt c next ih =>
    obtain ⟨call, hcall, hrefused⟩ := ih h
    exact ⟨call, List.mem_cons_of_mem _ hcall, hrefused⟩
  | freshTag next ih => exact ih _ h

/-- Running a script with a journal is running it without one, and writing its calls down. -/
theorem run_journal (script : Script α) (net : σ) (earlier : List Call) :
    script.run (⟨net, earlier⟩ : Journal σ) =
      ((script.run net).1, ⟨(script.run net).2, earlier ++ script.calls net⟩) := by
  induction script generalizing net earlier with
  | done value => simp
  | fail cause => simp
  | send c next ih =>
    rcases hresult : Transport.perform c net with ⟨cause | reply, net'⟩
    · have hjournal : Transport.perform c (⟨net, earlier⟩ : Journal σ) =
          (.error cause, ⟨net', earlier ++ [⟨c, some cause⟩]⟩) := by
        change Journal.perform c _ = _
        simp only [Journal.perform, hresult, refusal]
      simp only [run, calls, hresult, hjournal]
    · have hjournal : Transport.perform c (⟨net, earlier⟩ : Journal σ) =
          (.ok reply, ⟨net', earlier ++ [⟨c, none⟩]⟩) := by
        change Journal.perform c _ = _
        simp only [Journal.perform, hresult, refusal]
      simp only [run, calls, hresult, hjournal, ih, List.append_assoc, List.cons_append,
        List.nil_append]
  | attempt c next ih =>
    rcases hresult : Transport.perform c net with ⟨result, net'⟩
    have hjournal : (Transport.perform c (⟨net, earlier⟩ : Journal σ)).2 =
        ⟨net', earlier ++ [⟨c, refusal result⟩]⟩ := by
      change (Journal.perform c _).2 = _
      simp only [Journal.perform, hresult]
    simp only [run, calls, hresult, hjournal, ih, List.append_assoc, List.cons_append,
      List.nil_append]
  | freshTag next ih => exact ih _ _ _

/-! ### What a script can ask for -/

section Gives

variable {R : Promise} {p q : Command → Prop}

/-- Every command of a script is of one kind if its success matters, and of another kind if it is
only attempted, as long as the replies are as promised. -/
def Gives (R : Promise) (p q : Command → Prop) : Script α → Prop
  | .done _ => True
  | .fail _ => True
  | .send c next => p c ∧ ∀ reply, R c reply → (next reply).Gives R p q
  | .attempt c next => q c ∧ next.Gives R p q
  | .freshTag next => ∀ tag, (next tag).Gives R p q

@[simp] lemma gives_done (value : α) : (Script.done value).Gives R p q := trivial

/-- What is true of fewer commands is true of more. -/
lemma Gives.mono {p' q' : Command → Prop} {script : Script α} (h : script.Gives R p q)
    (hp : ∀ c, p c → p' c) (hq : ∀ c, q c → q' c) : script.Gives R p' q' := by
  induction script with
  | done value => trivial
  | fail cause => trivial
  | send c next ih => exact ⟨hp c h.1, fun reply hreply => ih reply (h.2 reply hreply)⟩
  | attempt c next ih => exact ⟨hq c h.1, ih h.2⟩
  | freshTag next ih => exact fun tag => ih tag (h tag)

/-- On a network that keeps its promise, a run asks for nothing else. -/
theorem Gives.calls (hR : R.KeptBy σ) {script : Script α} (h : script.Gives R p p) (net : σ) :
    ∀ call ∈ script.calls net, p call.command := by
  induction script generalizing net with
  | done value => simp
  | fail cause => simp
  | send c next ih =>
    obtain ⟨hc, hnext⟩ := h
    rcases hresult : Transport.perform c net with ⟨cause | reply, net'⟩
    · simp only [Script.calls, hresult, List.mem_singleton]
      rintro call rfl
      exact hc
    · simp only [Script.calls, hresult, List.mem_cons]
      rintro call (rfl | hcall)
      · exact hc
      · exact ih reply (hnext reply (hR c net net' reply hresult)) net' call hcall
  | attempt c next ih =>
    obtain ⟨hc, hnext⟩ := h
    simp only [Script.calls, List.mem_cons]
    rintro call (rfl | hcall)
    · exact hc
    · exact ih hnext _ call hcall
  | freshTag next ih => exact ih _ (h _) _

/-- If the network refuses a command whose success matters, it is the last one, no other has been
refused before it, and the script fails with the cause of the refusal. -/
theorem Gives.run_of_refused (hR : R.KeptBy σ) {script : Script α} (h : script.Gives R p q)
    {net : σ} {call : Call} (hcall : call ∈ script.calls net) {cause : TransportError}
    (hrefused : call.refused = some cause) (hcommand : ¬ q call.command) :
    (∃ earlier, script.calls net = earlier ++ [call] ∧
      ∀ other ∈ earlier, other.refused ≠ none → q other.command) ∧
      (script.run net).1 = .error cause := by
  induction script generalizing net with
  | done value => cases hcall
  | fail cause => cases hcall
  | send c next ih =>
    rcases hresult : Transport.perform c net with ⟨cause' | reply, net'⟩
    · simp only [Script.calls, hresult, List.mem_singleton] at hcall
      subst hcall
      cases hrefused
      refine ⟨⟨[], ?_, by simp⟩, ?_⟩
      · simp only [Script.calls, hresult, List.nil_append]
      · simp only [run, hresult]
    · simp only [Script.calls, run, hresult] at hcall ⊢
      rcases List.mem_cons.mp hcall with rfl | hcall
      · cases hrefused
      · have hnext := h.2 reply (hR c net net' reply hresult)
        obtain ⟨⟨earlier, hcalls, hearlier⟩, hrun⟩ := ih reply hnext hcall
        refine ⟨⟨⟨c, none⟩ :: earlier, by rw [hcalls]; rfl, ?_⟩, hrun⟩
        rintro other hother hne
        rcases List.mem_cons.mp hother with rfl | hother
        · exact absurd rfl hne
        · exact hearlier other hother hne
  | attempt c next ih =>
    obtain ⟨hc, hnext⟩ := h
    simp only [Script.calls, run] at hcall ⊢
    rcases List.mem_cons.mp hcall with rfl | hcall
    · exact absurd hc hcommand
    · obtain ⟨⟨earlier, hcalls, hearlier⟩, hrun⟩ := ih hnext hcall
      refine ⟨⟨_ :: earlier, by rw [hcalls]; rfl, ?_⟩, hrun⟩
      rintro other hother hne
      rcases List.mem_cons.mp hother with rfl | hother
      · exact hc
      · exact hearlier other hother hne
  | freshTag next ih => exact ih _ (h _) hcall

end Gives

end Script

end SipAgent
