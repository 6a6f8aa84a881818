import Mathlib.Data.Option.Basic
import SipAgent.Proofs.Transport.Carrying

/-!
# The same script at another time

A recorder that refuses nothing answers a script in the same way at any time, except that the
identifiers that it hands out are drawn later or earlier. `Recorder.Abreast` follows two recorders
that carry out the same commands from two different moments on; what the one draws stands for what
the other draws, `IdSupply.Drawn`.
-/

namespace SipAgent

/-! ### Names that stand for each other -/

namespace IdSupply

/-- One name stands for another: it is the same, or both are made of draws that stand for each
other. -/
def Renames {α : Type} (pairs : IdSupply → IdSupply → Prop) (name : IdSupply → α) (x x' : α) : Prop :=
  x = x' ∨ ∃ u v, pairs u v ∧ x = name u ∧ x' = name v

/-- The draws of a number of turns, from two moments on, stand for each other in turn. -/
def Drawn (w w' : IdSupply) (draws : Nat) (u v : IdSupply) : Prop :=
  ∃ turn < draws, u = w.after (turn + 1) ∧ v = w'.after (turn + 1)

variable {α : Type} {pairs pairs' : IdSupply → IdSupply → Prop} {name : IdSupply → α} {x x' : α}
  {w w' : IdSupply} {draws draws' : Nat}

lemma Renames.mono (h : Renames pairs name x x') (hpairs : ∀ u v, pairs u v → pairs' u v) :
    Renames pairs' name x x' :=
  h.imp_right fun ⟨u, v, huv, hx⟩ => ⟨u, v, hpairs u v huv, hx⟩

lemma Renames.symm (h : Renames pairs name x x') (hpairs : ∀ u v, pairs u v → pairs' v u) :
    Renames pairs' name x' x :=
  h.imp Eq.symm fun ⟨u, v, huv, hx, hx'⟩ => ⟨v, u, hpairs u v huv, hx', hx⟩

lemma Drawn.mono (hle : draws ≤ draws') {u v : IdSupply} (h : Drawn w w' draws u v) :
    Drawn w w' draws' u v := by
  obtain ⟨turn, hturn, huv⟩ := h
  exact ⟨turn, Nat.lt_of_lt_of_le hturn hle, huv⟩

/-- The last draw of the one stands for the last draw of the other. -/
lemma drawn_last (w w' : IdSupply) (draws : Nat) :
    Drawn w w' (draws + 1) (w.after draws).next (w'.after draws).next :=
  ⟨draws, Nat.lt_succ_self draws, rfl, rfl⟩

end IdSupply

/-- A client transaction with another identifier. -/
structure ClientTransaction.Renamed (pairs : IdSupply → IdSupply → Prop) (t t' : ClientTransaction) :
    Prop where
  id : IdSupply.Renames pairs IdSupply.transactionId t.id t'.id
  method : t'.method = t.method
  callId : t'.callId = t.callId

/-! ### Two recorders -/

/-- A command whose reply is made of what it is about. -/
def Command.drawsNothing : Command → Bool
  | .cancel _ | .bye _ | .respond .. | .ringing .. | .acceptInvite .. | .acknowledge ..
  | .terminateDialog _ => true
  | _ => false

namespace Recorder

/-- Nothing is refused. -/
def Works (r : Recorder) : Prop :=
  r.failing = false ∧ r.unreachable = false

lemma Works.refusal?_eq_none {r : Recorder} (h : r.Works) (c : Recorded) : r.refusal? c = none := by
  simp [refusal?, h.1, h.2]

/-- What a recorder that refuses nothing records is carried out. -/
lemma Works.record {r : Recorder} (h : r.Works) {α : Type} (c : Recorded)
    (next : Recorder → α × Recorder) :
    r.record c next =
      (.ok (next { r with commands := r.commands ++ [c] }).1,
        (next { r with commands := r.commands ++ [c] }).2) := by
  simp only [Recorder.record, h.refusal?_eq_none c]

lemma Works.perform_ringing {r : Recorder} (h : r.Works) (m : Request) (tag : Tag) :
    Transport.perform (.ringing m tag) r =
      (.ok m.serverTransaction, { r with commands := r.commands ++ [.ringing m.callId] }) :=
  h.record (.ringing m.callId) fun r => (m.serverTransaction, r)

/-- Two recorders have recorded the same, each since a moment of its own, and have drawn as often. -/
structure Abreast (r₀ r₀' : Recorder) (draws : Nat) (r r' : Recorder) : Prop where
  works : r.Works
  works' : r'.Works
  address : r'.address = r.address
  registrationCallId : r'.registrationCallId = r.registrationCallId
  commands : ∃ more, r.commands = r₀.commands ++ more ∧ r'.commands = r₀'.commands ++ more
  supply : r.supply = r₀.supply.after draws
  supply' : r'.supply = r₀'.supply.after draws

namespace Abreast

variable {r₀ r₀' r r' : Recorder} {draws : Nat}

lemma refl (hr : r.Works) (hr' : r'.Works) (haddress : r'.address = r.address)
    (hregistrations : r'.registrationCallId = r.registrationCallId) : Abreast r r' 0 r r' :=
  ⟨hr, hr', haddress, hregistrations, ⟨[], by simp, by simp⟩, rfl, rfl⟩

lemma recording (h : Abreast r₀ r₀' draws r r') (c : Recorded) :
    Abreast r₀ r₀' draws { r with commands := r.commands ++ [c] }
      { r' with commands := r'.commands ++ [c] } := by
  obtain ⟨more, hmore, hmore'⟩ := h.commands
  refine ⟨h.works, h.works', h.address, h.registrationCallId, ⟨more ++ [c], ?_, ?_⟩, h.supply,
    h.supply'⟩
  · rw [hmore, List.append_assoc]
  · rw [hmore', List.append_assoc]

/-- Both draw once. -/
lemma drawing (h : Abreast r₀ r₀' draws r r') (last last' : Option ClientTransaction) :
    Abreast r₀ r₀' (draws + 1) { r with supply := r.supply.next, lastTransaction := last }
      { r' with supply := r'.supply.next, lastTransaction := last' } where
  works := h.works
  works' := h.works'
  address := h.address
  registrationCallId := h.registrationCallId
  commands := h.commands
  supply := by rw [IdSupply.after_succ, h.supply]
  supply' := by rw [IdSupply.after_succ, h.supply']

/-- The draw that comes next for the one stands for the draw that comes next for the other. -/
lemma renames (h : Abreast r₀ r₀' draws r r') {α : Type} (name : IdSupply → α) :
    IdSupply.Renames (IdSupply.Drawn r₀.supply r₀'.supply (draws + 1)) name (name r.supply.next)
      (name r'.supply.next) :=
  .inr ⟨_, _, IdSupply.drawn_last r₀.supply r₀'.supply draws, by rw [h.supply], by rw [h.supply']⟩

lemma freshTag (h : Abreast r₀ r₀' draws r r') :
    IdSupply.Renames (IdSupply.Drawn r₀.supply r₀'.supply (draws + 1)) IdSupply.tag r.drawTag.1
        r'.drawTag.1 ∧
      Abreast r₀ r₀' (draws + 1) r.drawTag.2 r'.drawTag.2 :=
  ⟨h.renames IdSupply.tag, h.drawing r.lastTransaction r'.lastTransaction⟩

/-- A command that opens a transaction. -/
lemma opens (h : Abreast r₀ r₀' draws r r') (c : Recorded) (method : Method) (callId : CallId) :
    ∃ t t', t.Renamed (IdSupply.Drawn r₀.supply r₀'.supply (draws + 1)) t' ∧ t.callId = callId ∧
      ∃ net net', Abreast r₀ r₀' (draws + 1) net net' ∧
        (r.record c fun r => r.openTransaction method callId) = (.ok t, net) ∧
        (r'.record c fun r => r.openTransaction method callId) = (.ok t', net') := by
  let t : ClientTransaction := ⟨r.supply.next.transactionId, method, callId⟩
  let t' : ClientTransaction := ⟨r'.supply.next.transactionId, method, callId⟩
  refine ⟨t, t', ⟨h.renames IdSupply.transactionId, rfl, rfl⟩, rfl, _, _,
    (h.recording c).drawing (some t) (some t'), ?_, ?_⟩
  · rw [h.works.record]
    rfl
  · rw [h.works'.record]
    rfl

/-- A command that draws nothing gets the same reply from both. -/
lemma perform (h : Abreast r₀ r₀' draws r r') {c : Command} (hc : c.drawsNothing = true) :
    ∃ reply net net', Abreast r₀ r₀' draws net net' ∧
      Transport.perform c r = (.ok reply, net) ∧ Transport.perform c r' = (.ok reply, net') := by
  change ∃ reply net net', Abreast r₀ r₀' draws net net' ∧
    Recorder.perform c r = (.ok reply, net) ∧ Recorder.perform c r' = (.ok reply, net')
  cases c with
  | register | invite | reinvite | authenticate | keepalive => cases hc
  | _ =>
    simp only [Recorder.perform, h.works.record, h.works'.record]
    exact ⟨_, _, _, h.recording _, rfl, rfl⟩

end Abreast

end Recorder

/-! ### Scripts that draw nothing -/

/-- No branch of the script draws anything. -/
def Script.Steady {α : Type} : Script α → Prop
  | .done _ => True
  | .fail _ => True
  | .send c next => c.drawsNothing = true ∧ ∀ reply, (next reply).Steady
  | .attempt c next => c.drawsNothing = true ∧ next.Steady
  | .freshTag _ => False

/-- Two recorders that are abreast carry a script that draws nothing out in the same way. -/
theorem Recorder.Abreast.run {α : Type} {script : Script α} {r₀ r₀' r r' : Recorder} {draws : Nat}
    (hscript : script.Steady) (h : Recorder.Abreast r₀ r₀' draws r r') :
    (script.run r').1 = (script.run r).1 ∧
      Recorder.Abreast r₀ r₀' draws (script.run r).2 (script.run r').2 := by
  induction script generalizing r r' with
  | done value => exact ⟨rfl, h⟩
  | fail cause => exact ⟨rfl, h⟩
  | send c next ih =>
    obtain ⟨reply, net, net', hnet, hreply, hreply'⟩ := h.perform hscript.1
    rw [Script.run_send_of_perform hreply, Script.run_send_of_perform hreply']
    exact ih reply (hscript.2 reply) hnet
  | attempt c next ih =>
    obtain ⟨reply, net, net', hnet, hreply, hreply'⟩ := h.perform hscript.1
    rw [Script.run_attempt, Script.run_attempt, hreply, hreply']
    exact ih hscript.2 hnet
  | freshTag next => exact hscript.elim

end SipAgent
