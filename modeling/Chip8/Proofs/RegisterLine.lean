/-
# What a register line tells

A register line consists of fields with single blanks between them, and no field has a blank in
it, so that the line can be cut into its fields again.  Numbers in base sixteen are read back
whatever their width, the depth of the stack is read back as a decimal number, and the names of
the modes differ.  So a line shows everything that it is made of.

The main result is `report_eq_iff`.
-/
import Chip8.Machine.Report
import Chip8.Proofs.Text.Hex

namespace Chip8

/-! ## Fields of a line -/

/-- A line of texts without blanks can be cut into the texts again. -/
theorem splitOn_intercalate_blank {texts : List String} (closed : ∀ text ∈ texts, ' ' ∉ text.toList)
    (nonempty : texts ≠ []) :
    List.splitOn ' ' (String.intercalate " " texts).toList = texts.map String.toList := by
  have closedToo : ∀ letters ∈ texts.map String.toList, ' ' ∉ letters := by
    simpa using closed
  rw [String.toList_intercalate]
  exact List.splitOn_intercalate ' ' closedToo (by simpa using nonempty)

/-- A number is determined by its decimal text. -/
theorem toString_inj {first second : Nat} : toString first = toString second ↔ first = second := by
  constructor
  · intro same
    have digits := congrArg String.toList same
    rw [Nat.toString_eq_repr, Nat.toString_eq_repr, Nat.toList_repr, Nat.toList_repr] at digits
    have values := congrArg (Nat.ofDigitChars 10 · 0) digits
    simpa only [Nat.ofDigitChars_ten_toDigits] using values
  · rintro rfl
    rfl

theorem blank_not_mem_toDigits (number : Nat) : ' ' ∉ Nat.toDigits 10 number := by
  intro member
  exact absurd (Nat.isDigit_of_mem_toDigits (by decide) (by decide) member) (by decide)

namespace Mode

theorem name_inj {first second : Mode} : first.name = second.name ↔ first = second := by
  cases first <;> cases second <;> decide

theorem blank_not_mem_name (mode : Mode) : ' ' ∉ mode.name.toList := by
  cases mode <;> decide

end Mode

namespace Machine

/-! ## The line -/

/-- No field of a register line has a blank in it. -/
theorem blank_not_mem_reportFields (machine : Machine) :
    ∀ field ∈ machine.reportFields, ' ' ∉ field.toList := by
  have closed (width number : Nat) := Text.Hex.blank_not_mem_text width number
  have decimal := blank_not_mem_toDigits machine.stack.pointer.toNat
  have mode := machine.mode.blank_not_mem_name
  simp [reportFields, closed, decimal, mode]

theorem reportFields_ne_nil (machine : Machine) : machine.reportFields ≠ [] :=
  List.cons_ne_nil _ _

/-- Two lines are equal just when their fields are. -/
theorem report_eq_iff_reportFields_eq {first second : Machine} :
    first.report = second.report ↔ first.reportFields = second.reportFields := by
  constructor
  · intro same
    have cut := congrArg (fun line : String => List.splitOn ' ' line.toList) same
    rw [report, report,
      splitOn_intercalate_blank first.blank_not_mem_reportFields first.reportFields_ne_nil,
      splitOn_intercalate_blank second.blank_not_mem_reportFields second.reportFields_ne_nil] at cut
    exact (List.map_inj_right fun _ _ => String.toList_inj.mp).mp cut
  · intro same
    rw [report, report, same]

/-- The register lines of two machines are equal just when the machines agree in everything that
a line shows: the program counter, the index register, both timers, the depth of the stack, the
mode and all registers. -/
theorem report_eq_iff (first second : Machine) :
    first.report = second.report ↔
      first.pc = second.pc ∧ first.index = second.index ∧
        first.delayTimer = second.delayTimer ∧ first.soundTimer = second.soundTimer ∧
        first.stack.pointer = second.stack.pointer ∧ first.mode = second.mode ∧
        ∀ x : Register, first.v x = second.v x := by
  rw [report_eq_iff_reportFields_eq]
  simp only [reportFields, List.cons_append, List.nil_append, List.cons.injEq,
    List.map_inj_left, String.append_right_inj, Text.Hex.text_inj, toString_inj, Mode.name_inj,
    UInt16.toNat_inj, UInt8.toNat_inj, List.mem_finRange, forall_const]

end Machine

end Chip8
