import ProtoOs.Proof.Tasks
import ProtoOs.Proof.UartService

/-!
# The output of the UART service

The output of a run is that of its steps. Those of `task_a`, and the writes that `task_b` makes of
what it has received, print the payloads; every other step prints text of the kernel or a message of
a server about itself.
-/

namespace ProtoOs

variable {L : Layout} {cfg : Config} {img : Image} {m m' : Machine} {a : Action} {p p' : Service}
  {tf : TrapFrame} {calls : List UartCall} {h : List ((Machine × Service) × Action)}

def stepOutput (L : Layout) (cfg : Config) (r : (Machine × Service) × Action) : List UartCall :=
  ((r.1.1.step L cfg r.2).map r.1.1.output).getD []

/-- A step of `task_a`, or of `task_b` by which it writes what it has received. -/
def payloadStep (cfg : Config) (img : Image) (r : (Machine × Service) × Action) : Bool :=
  match r.1.1.phase, r.2 with
  | .el0 regs, .trap _ _ =>
      r.1.1.kernel.current = some slotTaskA ∨ r.1.1.kernel.current = some slotTaskB ∧
        (el0TaskBEntry cfg img r.1.1.kernel.mem (regs.x 0) r.1.2.b).2 = .written
  | _, _ => false

/-- What the payload steps of a run print. -/
def payloadOutput (L : Layout) (cfg : Config) (img : Image)
    (h : List ((Machine × Service) × Action)) : List UartCall :=
  (h.filter (payloadStep cfg img)).flatMap (stepOutput L cfg)

inductive OwnOutput (img : Image) (m : Machine) : Action → List UartCall → Prop
  | text {a : Action} {calls : List UartCall} (text : KernelText calls) : OwnOutput img m a calls
  | message {stores : List (SandboxAddress × UInt8)} {tf : TrapFrame} {ptr len : UInt64}
      (server : m.kernel.current = some slotTaskB ∨ m.kernel.current = some slotTaskC)
      (own : (ptr, len) ∈ serverMessages img) :
      OwnOutput img m (.trap stores tf) [.write (readBytes (m.trapped stores).mem ptr len)]

theorem serving_emitted (next : (serving cfg img).next p m a m' = some p') :
    p'.emitted = p.emitted ++ if payloadStep cfg img ((m, p), a) then m.output m' else [] := by
  cases a with
  | tick | advance =>
      rw [serving_untrapped (by nofun) next]
      simp [payloadStep]
  | trap stores tf =>
      simp only [serving] at next
      split at next
      · rename_i regs _ _ phase trap
        cases trap
        split_ifs at next with _ client _ server _ other
        · cases next
          simp [Service.client, payloadStep, phase, client]
        · cases next
          have client : slotTaskB ≠ slotTaskA := by decide
          by_cases written : (el0TaskBEntry cfg img m.kernel.mem (regs.x 0) p.b).2 = .written
          · simp [Service.server, payloadStep, phase, server, written]
          · simp [Service.server, payloadStep, phase, server, written, client]
        · cases next
          have client : slotTaskC ≠ slotTaskA := by decide
          have server : slotTaskC ≠ slotTaskB := by decide
          simp [payloadStep, phase, other, client, server]
      · rename_i untrapped
        cases next
        cases phase : m.phase with
        | el0 regs => exact absurd rfl (untrapped regs stores tf phase)
        | _ => simp [payloadStep, phase]

theorem serving_own (next : (serving cfg img).next p m a m' = some p')
    (phase : ∀ stores tf, a = .trap stores tf → ∃ regs, m.phase = .el0 regs)
    (output : Output m a calls) (other : payloadStep cfg img ((m, p), a) = false) :
    OwnOutput img m a calls := by
  cases output with
  | text text => exact .text text
  | @trap stores tf _ prints =>
      obtain ⟨regs, phase⟩ := phase stores tf rfl
      cases prints with
      | text text => exact .text text
      | write asks =>
          simp only [payloadStep, phase, decide_eq_false_iff_not, not_or, not_and] at other
          simp only [serving, phase] at next
          split_ifs at next with _ client _ server raises current calls
          · exact absurd client other.1
          · have write := other.2 server
            have call := serverCall raises.1
            generalize (el0TaskBEntry cfg img m.kernel.mem (regs.x 0) p.b).2 = b' at call write
            generalize p.b = b at call
            cases call with
            | announce _ own => exact .message (.inl server) own
            | write => exact absurd rfl write
            | recv asks' | reply asks' => exact absurd (asks.unique asks') (by decide)
            | crash fault => exact absurd asks.svc fault
          · cases taskCCall calls.1 with
            | write _ own => exact .message (.inr current) own
            | wait asks' | restart asks' | recv asks' | reply asks' =>
                exact absurd (asks.unique asks') (by decide)

/-- The output of a run, step by step. -/
structure Printed (L : Layout) (cfg : Config) (img : Image)
    (h : List ((Machine × Service) × Action)) (m : Machine) (p : Service) : Prop where
  uart : m.kernel.uart = h.flatMap (stepOutput L cfg)
  payloads : p.emitted = payloadOutput L cfg img h
  others : ∀ r ∈ h, payloadStep cfg img r = false → OwnOutput img r.1.1 r.2 (stepOutput L cfg r)

theorem Printed.step (printed : Printed L cfg img h m p) (inv : Inv L cfg m)
    (step : m.step L cfg a = some m') (next : (serving cfg img).next p m a m' = some p') :
    Printed L cfg img (h ++ [((m, p), a)]) m' p' := by
  obtain ⟨calls, uart, output⟩ := step_uart inv step
  have made : m.output m' = calls := output_of_uart uart
  have here : stepOutput L cfg ((m, p), a) = calls := by simp [stepOutput, step, made]
  refine ⟨?_, ?_, fun r member other => ?_⟩
  · rw [uart, printed.uart, List.flatMap_append, List.flatMap_singleton, here]
  · rw [serving_emitted next, printed.payloads, made]
    unfold payloadOutput
    rw [List.filter_append, List.flatMap_append]
    by_cases payload : payloadStep cfg img ((m, p), a) = true
    · simp [payload, here]
    · simp [payload]
  · rcases List.mem_append.mp member with earlier | now
    · exact printed.others r earlier other
    · obtain rfl := List.mem_singleton.mp now
      rw [here]
      refine serving_own next (fun stores tf isTrap => ?_) output other
      subst isTrap
      obtain ⟨regs, phase, _⟩ := Machine.step_trap step
      exact ⟨regs, phase⟩

theorem run_printed (run : ((kernelSystem L cfg).under (serving cfg img)).Run h (m, p)) :
    Printed L cfg img h m p := by
  generalize reached : (m, p) = q at run
  induction run generalizing m p with
  | @start q first =>
      subst reached
      obtain ⟨⟨mem, booted⟩, start⟩ := first
      cases start
      exact ⟨(boot_booted booted).uart, rfl, by simp⟩
  | @step h q a q' run taken ih =>
      subst reached
      exact (ih rfl).step (run_relaying run).inv taken.1 taken.2

end ProtoOs
