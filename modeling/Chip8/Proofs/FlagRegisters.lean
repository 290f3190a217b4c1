/-
# Flag registers

The eight flag registers are written by the instruction that saves registers in them,
and by a reset that is told to clear them.  Nothing else reaches them: not a fault, not
another program, and not an ordinary reset.

The main result is `saved_flags_persist`, which spans from the instruction that saves
registers over any history to the one that restores them.
-/
import Chip8.Proofs.Devices
import Chip8.Proofs.Operands
import Chip8.Proofs.Trace

namespace Chip8

/-- Whether an instruction writes flag registers, of which there are eight. -/
def Instruction.savesFlags : Instruction → Bool
  | .saveFlags x => x.val ≤ 7
  | _ => false

namespace Machine

/-- Whether a call clears the flag registers. -/
def Call.clearsFlags : Call → Bool
  | .reset _ clearFlags => clearFlags
  | _ => false

variable {machine : Machine} {instruction : Instruction}

/-! ## What writes flag registers -/

theorem flags_devicesAfter (accepted : machine.faultOf? instruction = none)
    (unsaved : instruction.savesFlags = false) :
    (machine.devicesAfter instruction).flags = machine.flags := by
  cases instruction with
  | saveFlags x =>
    have few : ¬ 8 ≤ x.val := not_le_of_flagsFault? accepted
    have many : ¬ x.val ≤ 7 := of_decide_eq_false unsaved
    omega
  | _ => rfl

theorem flags_step (unsaved : ∀ instruction, machine.nextInstruction? = some instruction →
    instruction.savesFlags = false) : machine.step.flags = machine.flags := by
  rcases machine.devices_step_cases with same | ⟨instruction, next, accepted, same⟩
  · exact congrArg Devices.flags same
  · have after := congrArg Devices.flags same
    rw [flags_devicesAfter accepted (unsaved instruction next)] at after
    exact after

/-- A call that takes no steps leaves the flag registers alone, unless it clears them. -/
theorem flags_perform {call : Call} (steps : call.steps? = none) (kept : call.clearsFlags = false) :
    (machine.perform call).flags = machine.flags := by
  rcases machine.perform_cases call with ⟨_, clearFlags, _, rfl, same⟩ | ⟨count, steps', -⟩ |
    ⟨resolution, same⟩ | ⟨_, _, _, _, _, same⟩
  · obtain rfl : clearFlags = false := kept
    rw [same, restarted_false]
  · rw [steps] at steps'
    cases steps'
  · rw [same]
    rfl
  · rw [same]

theorem flags_performAll {history : List Call}
    (kept : ∀ call ∈ history, call.clearsFlags = false)
    (unsaved : ∀ instruction ∈ machine.executed history, instruction.savesFlags = false) :
    (machine.performAll history).flags = machine.flags := by
  refine @related_performAll (fun first _ => first.flags = machine.flags) _ _ machine machine
    ?_ ?_ rfl history kept unsaved
  · intro first _ same unsaved
    rw [flags_step unsaved, same]
  · intro first _ call same kept steps
    rw [flags_perform steps kept, same]

/-! ## Saving and restoring -/

theorem get_flagsSaved (machine : Machine) (x : Register) (k : Fin 8) :
    (machine.flagsSaved x).get k =
      if k.val ≤ x.val then machine.v (k.castLE (by decide)) else machine.flags.get k :=
  Vector.getElem_ofFn k.isLt

theorem get_registersRestored (machine : Machine) (x k : Register) :
    (machine.registersRestored x).get k =
      if k ≤ x then machine.flags[k.val]?.getD (machine.v k) else machine.v k :=
  Vector.getElem_ofFn k.isLt

section Words

variable {word : Word} (family : word.family.val = 0xF) (few : word.x.val ≤ 7)

include family few

theorem executeWord_saveFlags (save : word.nn = 0x75) :
    machine.executeWord word = { machine with flags := machine.flagsSaved word.x } := by
  rw [executeWord, Instruction.decode_miscellaneous family, save]
  exact if_neg (Nat.not_le.mpr (Nat.lt_succ_of_le few))

theorem executeWord_restoreFlags (restore : word.nn = 0x85) :
    machine.executeWord word =
      { machine with registers := machine.registersRestored word.x } := by
  rw [executeWord, Instruction.decode_miscellaneous family, restore]
  exact if_neg (Nat.not_le.mpr (Nat.lt_succ_of_le few))

end Words

/-- Registers that are saved in the flag registers stay there over any history in which
the flag registers are neither saved to again nor cleared by a reset: whatever else is
executed or fails, and whichever programs are loaded.  The flag registers that were not
saved to stay as they were, too.  Restoring then sets the first registers to the flag
registers and changes nothing else, so that as many registers as were saved are back. -/
theorem saved_flags_persist (machine : Machine) {word : Word} (family : word.family.val = 0xF)
    (save : word.nn = 0x75) (few : word.x.val ≤ 7) {history : List Call}
    (kept : ∀ call ∈ history, call.clearsFlags = false)
    (unsaved : ∀ instruction ∈ (machine.executeWord word).executed history,
      instruction.savesFlags = false) :
    let last := (machine.executeWord word).performAll history
    (∀ k : Fin 8, last.flags.get k =
      if k.val ≤ word.x.val then machine.v (k.castLE (by decide)) else machine.flags.get k) ∧
    ∀ restore : Word, restore.family.val = 0xF → restore.nn = 0x85 → restore.x.val ≤ 7 →
      ∃ registers, last.executeWord restore = { last with registers := registers } ∧
        (∀ k : Fin 8, k.val ≤ restore.x.val →
          registers.get (k.castLE (by decide)) = last.flags.get k) ∧
        (∀ k : Register, restore.x < k → registers.get k = last.v k) ∧
        ∀ k : Fin 8, k.val ≤ restore.x.val → k.val ≤ word.x.val →
          registers.get (k.castLE (by decide)) = machine.v (k.castLE (by decide)) := by
  intro last
  have saved (k : Fin 8) : last.flags.get k =
      if k.val ≤ word.x.val then machine.v (k.castLE (by decide)) else machine.flags.get k := by
    rw [flags_performAll kept unsaved, executeWord_saveFlags family few save, get_flagsSaved]
  refine ⟨saved, ?_⟩
  intro restore family read few
  have restored (k : Fin 8) (within : k.val ≤ restore.x.val) :
      (last.registersRestored restore.x).get (k.castLE (by decide)) = last.flags.get k := by
    rw [get_registersRestored, if_pos (Fin.le_def.mpr within)]
    show last.flags[k.val]?.getD _ = last.flags[k.val]
    rw [Vector.getElem?_eq_getElem k.isLt, Option.getD_some]
  refine ⟨last.registersRestored restore.x, executeWord_restoreFlags family few read, restored,
    ?_, ?_⟩
  · intro k behind
    rw [get_registersRestored, if_neg (Fin.not_le.mpr behind)]
  · intro k within among
    rw [restored k within, saved, if_pos among]

/-- Two registers are saved.  Then the first one is overwritten, saving nine registers
fails, and the machine is reset without a program, before four registers are restored. -/
theorem two_saved_registers_are_back :
    let machine : Machine :=
      { powerOn ⟨0, 0⟩ .standard with
        memory := Memory.zero
        registers := #v[0x11, 0x22, 0x33, 0x44, 0, 0, 0, 0, 0, 0, 0, 0, 0, 0, 0, 0] }
    let last := (machine.executeWord 0xF175).performAll
      [.load (.bytes [0x60, 0x07, 0xF8, 0x75]) 0x200, .run 5, .tick, .reset none false,
        .setResolution (.truth true), .setKey 3 true, .setRegister 1 9]
    last.flags.get ⟨0, by decide⟩ = 0x11 ∧ last.flags.get ⟨2, by decide⟩ = 0 ∧
      ∃ registers, last.executeWord 0xF385 = { last with registers := registers } ∧
        registers.get ⟨1, by decide⟩ = 0x22 := by
  intro machine last
  obtain ⟨saved, restored⟩ := @saved_flags_persist machine 0xF175 (by decide) (by decide)
    (by decide) [.load (.bytes [0x60, 0x07, 0xF8, 0x75]) 0x200, .run 5, .tick, .reset none false,
      .setResolution (.truth true), .setKey 3 true, .setRegister 1 9] (by decide)
    (by decide +kernel)
  obtain ⟨registers, same, -, -, back⟩ := restored 0xF385 (by decide) (by decide) (by decide)
  exact ⟨saved ⟨0, by decide⟩, saved ⟨2, by decide⟩, registers, same,
    back ⟨1, by decide⟩ (by decide) (by decide)⟩

end Machine

end Chip8
