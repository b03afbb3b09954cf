import CookedMode.History.Kept
import CookedMode.Proofs.History.Log
import CookedMode.Proofs.History.Operation

/-!
# The newest of what was submitted

A history is used, and kept in its file, in any order.  A ledger without a bound writes down
what is submitted meanwhile: what was loaded, and what is pushed while pushes count, since
the last clear.  Whatever has happened, the entries of the history are the newest ones of the
ledger, once adjacent duplicates are collapsed.
-/

namespace CookedMode

namespace History

variable {history : History}

/-- The entries are as before, and pushes count if they did before. -/
structure Keeps (history after : History) : Prop where
  entries : after.entries = history.entries
  maxSize : after.maxSize = history.maxSize
  enabled : after.enabled = history.enabled

theorem keeps_fetchAt (history : History) (position : Nat) :
    history.Keeps (history.fetchAt position).2 := by
  unfold fetchAt
  split <;> exact ⟨rfl, rfl, rfl⟩

theorem keeps_search (history : History) (term : String) :
    history.Keeps (history.search term).2 := by
  unfold search
  split <;> exact ⟨rfl, rfl, rfl⟩

theorem push_of_disabled (disabled : history.enabled = false) (entry : String) :
    history.push entry = history := by
  rw [push, disabled]
  rfl

/-- What was submitted so far, and whether pushes count. -/
structure Ledger where
  enabled : Bool := true
  submitted : List String

namespace Ledger

/-- The ledger after an operation. -/
def after (ledger : Ledger) : Operation → Ledger
  | .push entry =>
    if ledger.enabled then { ledger with submitted := ledger.submitted ++ [entry] } else ledger
  | .clear => { ledger with submitted := [] }
  | .enable => { ledger with enabled := true }
  | .disable => { ledger with enabled := false }
  | .fetchPrevious | .fetchNext | .search _ | .setDirection _ => ledger

/-- A history holds the newest entries of a ledger. -/
structure Backs (ledger : Ledger) (history : History) : Prop where
  enabled : history.enabled = ledger.enabled
  entries : history.entries = (collapse ledger.submitted).rtake history.maxSize

variable {ledger : Ledger}

theorem Backs.keeps {next : History} (backs : ledger.Backs history) (keeps : history.Keeps next) :
    ledger.Backs next where
  enabled := keeps.enabled.trans backs.enabled
  entries := by rw [keeps.entries, keeps.maxSize, backs.entries]

theorem Backs.push (backs : ledger.Backs history) (entry : String) :
    (ledger.after (.push entry)).Backs (history.push entry) := by
  cases enabled : ledger.enabled with
  | true =>
      have remembers : history.Remembers ledger.submitted :=
        ⟨backs.enabled.trans enabled, backs.entries⟩
      have pushed := remembers.push entry
      rw [Ledger.after, if_pos enabled]
      exact ⟨pushed.enabled.trans enabled.symm, pushed.entries⟩
  | false =>
      rw [push_of_disabled (backs.enabled.trans enabled), Ledger.after,
        if_neg (Bool.eq_false_iff.mp enabled)]
      exact backs

/-- Every operation keeps the history and the ledger in step. -/
theorem Backs.after (backs : ledger.Backs history) (operation : Operation) :
    (ledger.after operation).Backs (history.after operation) := by
  cases operation with
  | push entry => exact backs.push entry
  | fetchPrevious => exact backs.keeps (history.keeps_fetchAt _)
  | fetchNext => exact backs.keeps (history.keeps_fetchAt _)
  | search term => exact backs.keeps (history.keeps_search term)
  | setDirection direction => exact ⟨backs.enabled, backs.entries⟩
  | clear => exact ⟨backs.enabled, (List.rtake_nil _).symm⟩
  | enable => exact ⟨rfl, backs.entries⟩
  | disable => exact ⟨rfl, backs.entries⟩

end Ledger

theorem entries_after (operation : Operation)
    (ignored : ∀ entry, operation = .push entry → history.enabled = false)
    (noClear : operation ≠ .clear) : (history.after operation).entries = history.entries := by
  cases operation with
  | push entry => rw [after, push_of_disabled (ignored entry rfl)]
  | fetchPrevious => exact (history.keeps_fetchAt _).entries
  | fetchNext => exact (history.keeps_fetchAt _).entries
  | search term => exact (history.keeps_search term).entries
  | clear => exact absurd rfl noClear
  | setDirection direction | enable | disable => rfl

@[simp] theorem maxSize_after (history : History) (operation : Operation) :
    (history.after operation).maxSize = history.maxSize := by
  cases operation with
  | push entry => exact maxSize_push history entry
  | fetchPrevious => exact (history.keeps_fetchAt _).maxSize
  | fetchNext => exact (history.keeps_fetchAt _).maxSize
  | search term => exact (history.keeps_search term).maxSize
  | setDirection direction | clear | enable | disable => rfl

end History

namespace KeptHistory

/-- What can be done with a history that has a store. -/
inductive Operation where
  | on (operation : History.Operation)
  /-- The newest entries are written to the store, if there is one. -/
  | keep

/-- A history with its store, and the files that the store is one of. -/
structure InUse where
  kept : KeptHistory
  files : FileSystem

namespace InUse

/-- The state after an operation, whether it succeeds or not. -/
def after (state : InUse) : Operation → InUse
  | .on operation =>
    { state with kept := { state.kept with history := state.kept.history.after operation } }
  | .keep => { state with files := (state.kept.keep state.files).files }

/-- The state after some operations, in order. -/
def afterAll (state : InUse) (operations : List Operation) : InUse :=
  operations.foldl after state

/-- The entries of the history, oldest first. -/
def entries (state : InUse) : List String := state.kept.history.entries

end InUse

/-- The ledger after some operations: what is kept is submitted already. -/
def ledgerAfter (ledger : History.Ledger) (operations : List Operation) : History.Ledger :=
  operations.foldl
    (fun ledger operation =>
      match operation with
      | .on operation => ledger.after operation
      | .keep => ledger)
    ledger

variable {ledger : History.Ledger} {state : InUse}

theorem maxSize_afterAll (state : InUse) (operations : List Operation) :
    (state.afterAll operations).kept.history.maxSize = state.kept.history.maxSize := by
  induction operations generalizing state with
  | nil => rfl
  | cons operation operations ih =>
      rw [InUse.afterAll, List.foldl_cons, ← InUse.afterAll, ih]
      cases operation with
      | on operation => exact History.maxSize_after state.kept.history operation
      | keep => rfl

/-- Along any run, the history holds the newest entries of the ledger. -/
theorem backs_afterAll (backs : ledger.Backs state.kept.history) (operations : List Operation) :
    (ledgerAfter ledger operations).Backs (state.afterAll operations).kept.history := by
  induction operations generalizing ledger state with
  | nil => exact backs
  | cons operation operations ih =>
      cases operation with
      | on operation => exact ih (backs.after operation)
      | keep => exact ih backs

/-- A history of at least one entry can always be made.  Whatever is loaded into it and
whatever it is used for, its entries are the newest of those in the ledger, without adjacent
duplicates; and nothing but a push that counts and a clear changes them, least of all keeping
them. -/
theorem entries_eq_newest (maxSize : Int) (positive : 1 ≤ maxSize) (policy : SearchMatch)
    (permission : Permission) (loaded : List String) (store : Option Store)
    (files : FileSystem) :
    ∃ empty, History.of? maxSize policy permission = .ok empty ∧
      ∀ operations,
        let start : InUse := { kept := { history := empty.pushAll loaded, store }, files }
        let reached := start.afterAll operations
        let ledger := ledgerAfter { submitted := loaded } operations
        reached.entries = (collapse ledger.submitted).rtake maxSize.toNat ∧
        reached.kept.history.enabled = ledger.enabled ∧
        (reached.after .keep).entries = reached.entries ∧
        ∀ operation : History.Operation,
          (∀ entry, operation = .push entry → reached.kept.history.enabled = false) →
          operation ≠ .clear → (reached.after (.on operation)).entries = reached.entries := by
  have notLess : ¬maxSize < 1 := Int.not_lt.mpr positive
  let empty : History :=
    { maxSize := maxSize.toNat, policy, permission, maxSize_pos := toNat_pos notLess }
  have given : History.of? maxSize policy permission = .ok empty := by
    rw [History.of?, dif_neg notLess]
  refine ⟨empty, given, fun operations => ?_⟩
  intro start reached ledger
  have nothing : empty.Remembers [] := ⟨rfl, by rw [collapse_nil, List.rtake_nil]⟩
  have opening : History.Ledger.Backs { submitted := loaded } (empty.pushAll loaded) :=
    ⟨(nothing.pushAll loaded).enabled, (nothing.pushAll loaded).entries⟩
  have backs : ledger.Backs reached.kept.history := backs_afterAll opening operations
  have sizeEq : reached.kept.history.maxSize = maxSize.toNat := by
    rw [maxSize_afterAll, History.maxSize_pushAll]
  refine ⟨?_, backs.enabled, rfl, fun operation ignored noClear => ?_⟩
  · rw [← sizeEq]
    exact backs.entries
  · exact History.entries_after operation ignored noClear

/-- A log of two entries: what was loaded is collapsed, a push while disabled does not count,
a repetition is collapsed although the history was searched and kept in between, and the
oldest entries make room. -/
theorem entries_eq_newest_two :
    (1 : Int) ≤ 2 ∧ ∃ empty, History.of? 2 .contains {} = .ok empty ∧
      let store : Store := { path := ⟨"/", ["history"]⟩, maxSize := 2 }
      let start : InUse := ⟨⟨empty.pushAll ["a", "a", "b"], some store⟩, {}⟩
      (start.afterAll
        [.on .disable, .on (.push "x"), .on .enable, .on (.search "a"), .keep, .on (.push "b"),
          .on (.push "c")]).entries = ["b", "c"] := by
  have positive : (1 : Int) ≤ 2 := by decide
  obtain ⟨empty, given, newest⟩ :=
    entries_eq_newest 2 positive .contains {} ["a", "a", "b"]
      (some { path := ⟨"/", ["history"]⟩, maxSize := 2 }) {}
  exact ⟨positive, empty, given, (newest _).1.trans (by decide)⟩

end KeptHistory

end CookedMode
