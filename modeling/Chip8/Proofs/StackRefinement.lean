/-
# The call stack as a bounded list

Seen from outside, the stack is a list of at most sixteen words to which one adds and from
which one takes at the same end.  The list is an independent account of it: it has neither
slots nor a pointer, and it answers every request by itself.  `serve_entries` says that one
request leads the stack and its list to the same answer and to a stack and a list that belong
together again; `serveAll_entries` follows for any sequence of requests by induction.

What carries the induction is that slots which are not in use hold zero.  It makes stacks with
the same list the same, so that a refused request can be told by its list alone.  The main
result is `runs_refine_bounded_list`.
-/
import Chip8.Proofs.CallStack
import Chip8.Width

namespace Chip8.CallStack

/-- Something that is asked of a stack. -/
inductive Request where
  | push (number : Int)
  | pop
deriving DecidableEq, Repr

/-- What is answered: whether there was no room, or which address was removed and whether
there was none. -/
inductive Answer where
  | pushed (overflowed : Bool)
  | popped (address : UInt16) (underflowed : Bool)
deriving DecidableEq, Repr

/-- The answers to a sequence of requests, in order, and the state after it. -/
def serveAll {State : Type} (serve : State → Request → Answer × State) (state : State) :
    List Request → List Answer × State
  | [] => ([], state)
  | request :: requests =>
    let (answer, next) := serve state request
    let (answers, last) := serveAll serve next requests
    (answer :: answers, last)

/-- How a stack serves a request. -/
def serve (stack : CallStack) : Request → Answer × CallStack
  | .push number =>
    let (next, overflowed) := stack.pushNumber number
    (.pushed overflowed, next)
  | .pop =>
    let (next, address, underflowed) := stack.pop
    (.popped address underflowed, next)

/-- How a list of at most sixteen words serves a request. -/
def serveList (entries : List UInt16) : Request → Answer × List UInt16
  | .push number =>
    if entries.length < 16 then (.pushed false, entries ++ [UInt16.ofInt number])
    else (.pushed true, entries)
  | .pop =>
    match entries.getLast? with
    | some newest => (.popped newest false, entries.dropLast)
    | none => (.popped 0 true, entries)

/-! ## One request -/

variable {stack : CallStack}

theorem isClean_empty : empty.IsClean := by
  refine ⟨by decide, fun slot _ => ?_⟩
  exact Vector.getElem_replicate slot.isLt

theorem isFull_eq_false_iff (clean : stack.IsClean) :
    stack.isFull = false ↔ stack.entries.length < 16 := by
  rw [length_entries clean.pointer_le, isFull, decide_eq_false_iff_not, Nat.not_le]

theorem isEmpty_eq_true_iff_entries (clean : stack.IsClean) :
    stack.isEmpty = true ↔ stack.entries = [] := by
  rw [isEmpty_eq_true_iff, ← length_entries clean.pointer_le, List.length_eq_zero_iff]

/-- A stack with an entry gives the newest one and keeps the others. -/
theorem pop_of_entries_eq (clean : stack.IsClean) {older : List UInt16} {newest : UInt16}
    (entries : stack.entries = older ++ [newest]) :
    stack.pop = (stack.pop.1, newest, false) ∧ stack.pop.1.entries = older ∧
      stack.pop.1.IsClean := by
  have used : stack.isEmpty = false := by
    rw [Bool.eq_false_iff, ne_eq, isEmpty_eq_true_iff_entries clean, entries]
    exact List.append_ne_nil_of_right_ne_nil older (List.cons_ne_nil newest [])
  have split := entries_eq_pop_append used clean.pointer_le
  rw [entries] at split
  obtain ⟨others, last⟩ := List.append_inj' split rfl
  refine ⟨?_, others.symm, clean.pop used⟩
  rw [List.singleton_inj.mp last]
  exact pop_of_not_isEmpty used

/-- What was pushed is popped, and the stack is as it was. -/
theorem pop_push (clean : stack.IsClean) (room : stack.isFull = false) (address : UInt16) :
    (stack.push address).1.pop = (stack, address, false) := by
  have pushed := clean.push room address
  obtain ⟨popped, entries, back⟩ := pop_of_entries_eq pushed (entries_push room address)
  -- The slot that was written holds zero again, as before: both stacks are clean.
  rw [popped, back.eq_of_entries_eq clean entries]

/-- One request leads a stack and its list to the same answer, and the stack that follows is
clean and has the list that follows. -/
theorem serve_entries (clean : stack.IsClean) (request : Request) :
    (stack.serve request).1 = (serveList stack.entries request).1 ∧
      (stack.serve request).2.entries = (serveList stack.entries request).2 ∧
      (stack.serve request).2.IsClean := by
  cases request with
  | push number =>
    rw [serveList, serve, pushNumber]
    cases room : stack.isFull with
    | false =>
      rw [if_pos ((isFull_eq_false_iff clean).mp room), push_of_not_isFull room]
      exact ⟨rfl, entries_push room _, clean.push room _⟩
    | true =>
      have full : ¬ stack.entries.length < 16 := by
        rw [← isFull_eq_false_iff clean, room]
        exact Bool.noConfusion
      rw [if_neg full, push_of_isFull room]
      exact ⟨rfl, rfl, clean⟩
  | pop =>
    rw [serveList, serve]
    rcases List.eq_nil_or_concat stack.entries with unused | ⟨older, newest, entries⟩
    · rw [pop_of_isEmpty ((isEmpty_eq_true_iff_entries clean).mpr unused), unused]
      exact ⟨rfl, rfl, clean⟩
    · rw [List.concat_eq_append] at entries
      obtain ⟨popped, others, next⟩ := pop_of_entries_eq clean entries
      rw [popped, entries, List.getLast?_concat, List.dropLast_concat]
      exact ⟨rfl, others, next⟩

/-! ## Sequences of requests -/

theorem serveAll_cons {State : Type} (serve : State → Request → Answer × State) (state : State)
    (request : Request) (requests : List Request) :
    serveAll serve state (request :: requests) =
      ((serve state request).1 :: (serveAll serve (serve state request).2 requests).1,
        (serveAll serve (serve state request).2 requests).2) :=
  rfl

/-- The list of a stack never exceeds the slots. -/
theorem length_entries_le (clean : stack.IsClean) : stack.entries.length ≤ 16 := by
  rw [length_entries clean.pointer_le]
  exact clean.pointer_le

/-- A stack and its list stay together over any sequence of requests. -/
theorem serveAll_entries (clean : stack.IsClean) (requests : List Request) :
    (serveAll serve stack requests).1 = (serveAll serveList stack.entries requests).1 ∧
      (serveAll serve stack requests).2.entries =
        (serveAll serveList stack.entries requests).2 ∧
      (serveAll serve stack requests).2.IsClean := by
  induction requests generalizing stack with
  | nil => exact ⟨rfl, rfl, clean⟩
  | cons request requests ih =>
    obtain ⟨answer, entries, next⟩ := serve_entries clean request
    obtain ⟨answers, last, lastClean⟩ := ih next
    rw [entries] at answers last
    rw [serveAll_cons, serveAll_cons, answer, answers]
    exact ⟨rfl, last, lastClean⟩

/-! ## The stack is a bounded list -/

/-- After any sequence of requests, beginning with the empty stack, the answers were those of a
list of at most sixteen words, and the stack holds this list and zero behind it.  So a push
adds its number modulo `2 ^ 16` unless the list is full, and a pop takes the newest word
unless the list is empty.  A request that finds no room or no word leaves the stack as it is,
a pop undoes a push, and stacks with the same list are the same. -/
theorem runs_refine_bounded_list (requests : List Request) :
    let stack := (serveAll serve empty requests).2
    let entries := (serveAll serveList [] requests).2
    (serveAll serve empty requests).1 = (serveAll serveList [] requests).1 ∧
    stack.entries = entries ∧ stack.pointer.toNat = entries.length ∧ entries.length ≤ 16 ∧
    (∀ slot : Fin 16, stack.pointer.toNat ≤ slot.val → stack.slots.get slot = 0) ∧
    (∀ number : Int, entries.length < 16 → ∃ (next : CallStack) (address : UInt16),
      (address.toNat : Int) = number % 0x10000 ∧ stack.pushNumber number = (next, false) ∧
        next.entries = entries ++ [address] ∧ next.pop = (stack, address, false)) ∧
    (∀ number : Int, entries.length = 16 → stack.pushNumber number = (stack, true)) ∧
    (∀ older newest, entries = older ++ [newest] →
      ∃ next : CallStack, stack.pop = (next, newest, false) ∧ next.entries = older) ∧
    (entries = [] → stack.pop = (stack, 0, true)) ∧
    ∀ others : List Request, (serveAll serve empty others).2.entries = entries →
      (serveAll serve empty others).2 = stack := by
  intro stack entries
  obtain ⟨answers, same, clean⟩ := serveAll_entries isClean_empty requests
  rw [entries_empty] at answers same
  refine ⟨answers, same, ?length, ?bounded, clean.unused_eq_zero, ?push, ?overflow, ?pop,
    ?underflow, ?canonical⟩
  case length =>
    exact (length_entries clean.pointer_le).symm.trans (congrArg List.length same)
  case bounded =>
    show (serveAll serveList [] requests).2.length ≤ 16
    rw [← same]
    exact length_entries_le clean
  case push =>
    intro number fits
    have room : stack.isFull = false := (isFull_eq_false_iff clean).mpr (same ▸ fits)
    refine ⟨(stack.pushNumber number).1, UInt16.ofInt number, toNat_ofInt number,
      push_of_not_isFull room _, ?_, pop_push clean room _⟩
    exact (entries_push room _).trans (congrArg (· ++ [UInt16.ofInt number]) same)
  case overflow =>
    intro number full
    have unfit : stack.isFull = true := by
      rw [isFull_eq_true_iff clean.pointer_le, ← length_entries clean.pointer_le, same, full]
    exact push_of_isFull unfit _
  case pop =>
    intro older newest listed
    obtain ⟨popped, others, -⟩ := pop_of_entries_eq clean (same.trans listed)
    exact ⟨_, popped, others⟩
  case underflow =>
    intro unused
    exact pop_of_isEmpty ((isEmpty_eq_true_iff_entries clean).mpr (same.trans unused))
  case canonical =>
    intro others listed
    have othersClean := (serveAll_entries isClean_empty others).2.2
    exact othersClean.eq_of_entries_eq clean (listed.trans same.symm)

/-- A pop that finds nothing, and then one push more than there is room for. -/
theorem filled_stack_forgets_what_was_refused :
    let requests := Request.pop :: List.replicate 17 (.push (-2))
    let stack := (serveAll serve empty requests).2
    (serveAll serve empty requests).1 =
        .popped 0 true :: List.replicate 16 (.pushed false) ++ [.pushed true] ∧
      stack.pushNumber 0x10234 = (stack, true) ∧
      ∃ next : CallStack, stack.pop = (next, 0xFFFE, false) ∧
        next.entries = List.replicate 15 0xFFFE := by
  intro requests stack
  obtain ⟨answers, -, -, -, -, -, overflow, pop, -⟩ := runs_refine_bounded_list requests
  have listed : (serveAll serveList [] requests).2 = List.replicate 15 0xFFFE ++ [0xFFFE] := by
    decide +kernel
  refine ⟨answers.trans (by decide +kernel), overflow _ ?_, pop _ _ listed⟩
  rw [listed]
  rfl

end Chip8.CallStack
