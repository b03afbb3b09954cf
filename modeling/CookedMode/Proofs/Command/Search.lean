import CookedMode.Command.Run
import CookedMode.Proofs.History.Restart
import CookedMode.Proofs.History.Retrace

/-!
# Listing what a search finds

The search command opens a history, counts the entries that match, and searches as often.
Nothing has been found in the history before, so the searches go once around the log from its
end: they find every entry that matches once, in the order of the direction.
-/

namespace CookedMode

/-- An entry matches a term: the term occurs in it, or the entry begins with the term. -/
def SearchMatch.Fits (policy : SearchMatch) (entry term : String) : Prop :=
  match policy with
  | contains => term.toList <:+: entry.toList
  | leading => term.toList <+: entry.toList

instance (policy : SearchMatch) (entry term : String) : Decidable (policy.Fits entry term) :=
  match policy with
  | .contains => inferInstanceAs (Decidable (term.toList <:+: entry.toList))
  | .leading => inferInstanceAs (Decidable (term.toList <+: entry.toList))

theorem occursIn_eq_true_iff {term entry : List Char} :
    occursIn term entry = true ↔ term <:+: entry := by
  induction entry with
  | nil => rw [occursIn, List.isEmpty_iff, List.infix_nil]
  | cons char rest ih =>
      rw [occursIn, Bool.or_eq_true, List.isPrefixOf_iff_prefix, ih, List.infix_cons_iff]

theorem SearchMatch.accepts_eq_decide (policy : SearchMatch) (entry term : String) :
    policy.accepts entry term = decide (policy.Fits entry term) := by
  rw [Bool.eq_iff_iff, decide_eq_true_iff]
  cases policy with
  | contains => exact occursIn_eq_true_iff
  | leading => exact List.isPrefixOf_iff_prefix

theorem SearchMatch.Fits.contains {entry term : String} (fits : leading.Fits entry term) :
    contains.Fits entry term :=
  List.IsPrefix.isInfix fits

/-- Entries in the order in which a search from the end of the log comes by them. -/
def SearchDirection.arrange (direction : SearchDirection) (entries : List String) :
    List String :=
  match direction with
  | forward => entries
  | reverse => entries.reverse

namespace SearchDirection

theorem positions_forward (length : Nat) : forward.positions length 0 = List.range length := by
  apply List.ext_getElem
  · simp
  · intro index inPositions _
    have inLog : index < length := by simpa using inPositions
    rw [getElem_positions, List.getElem_range, ahead, Nat.zero_add, Nat.mod_eq_of_lt inLog]

theorem positions_reverse (length : Nat) :
    reverse.positions length (length - 1) = (List.range length).reverse := by
  apply List.ext_getElem
  · simp
  · intro index inPositions _
    have inLog : index < length := by simpa using inPositions
    have around : length - 1 + length - index = length - 1 - index + length := by omega
    have fromEnd : length - 1 - index < length := by omega
    rw [getElem_positions, List.getElem_reverse, List.getElem_range, List.length_range, ahead,
      around, Nat.add_mod_right, Nat.mod_eq_of_lt fromEnd]

end SearchDirection

namespace History

variable {history : History} {policy : SearchMatch}

/-- Nothing has been found yet in a history with a policy. -/
structure Unsearched (history : History) (policy : SearchMatch) : Prop where
  policyEq : history.policy = policy
  lastPosition : history.lastPosition = none

theorem Unsearched.evict (unsearched : history.Unsearched policy) :
    history.evict.Unsearched policy := by
  unfold History.evict
  split
  · exact ⟨unsearched.policyEq, by rw [unsearched.lastPosition, Option.map_none]⟩
  · exact unsearched

theorem Unsearched.append (unsearched : history.Unsearched policy) (entry : String) :
    (history.append entry).Unsearched policy := by
  unfold History.append
  split
  · exact unsearched
  · exact evict ⟨unsearched.policyEq, unsearched.lastPosition⟩

theorem Unsearched.push (unsearched : history.Unsearched policy) (entry : String) :
    (history.push entry).Unsearched policy := by
  have appended := unsearched.append entry
  unfold History.push
  split
  · exact ⟨appended.policyEq, appended.lastPosition⟩
  · exact unsearched

theorem Unsearched.pushAll (unsearched : history.Unsearched policy) (entries : List String) :
    (history.pushAll entries).Unsearched policy := by
  induction entries generalizing history with
  | nil => exact unsearched
  | cons entry entries ih => exact ih (unsearched.push entry)

/-- The first search begins at that end of the log from which its direction leads away. -/
theorem Unsearched.map_positions (unsearched : history.Unsearched policy) :
    (history.direction.positions history.size history.searchStart).map (history.entries[·]?) =
      (history.direction.arrange history.entries).map some := by
  unfold searchStart
  rw [unsearched.lastPosition]
  cases history.direction with
  | forward =>
      rw [SearchDirection.positions_forward]
      exact map_getElem?_range history.entries
  | reverse =>
      rw [SearchDirection.positions_reverse, List.map_reverse, size,
        map_getElem?_range, ← List.map_reverse]
      rfl

/-- The entries at the hits are those that match. -/
theorem Unsearched.map_hits (unsearched : history.Unsearched policy) (term : String) :
    (history.hits term).map (history.entries[·]?) =
      ((history.direction.arrange history.entries).filter
        fun entry => policy.Fits entry term).map some := by
  have kept : (history.hits term).map (history.entries[·]?) =
      ((history.direction.positions history.size history.searchStart).map
        (history.entries[·]?)).filter (·.any (policy.accepts · term)) := by
    rw [hits, List.filter_map, ← unsearched.policyEq]
    rfl
  rw [kept, unsearched.map_positions, List.filter_map]
  simp only [Function.comp_def, Option.any_some, SearchMatch.accepts_eq_decide]

/-- As many searches as there are hits find each of them once. -/
theorem route_length_hits (history : History) (term : String) :
    history.route term (history.hits term).length = history.hits term := by
  by_cases matched : history.hits term = []
  · rw [matched]
    rfl
  · have heads (number : Nat) (inHits : number ∈ List.range (history.hits term).length) :
        ((history.hits term).rotate number).head? = (history.hits term)[number]? :=
      List.head?_rotate (List.mem_range.mp inHits)
    have lookups := congrArg (List.filterMap id) (map_getElem?_range (history.hits term))
    rw [List.filterMap_map, List.filterMap_map] at lookups
    rw [route_eq matched, List.filterMap_congr heads]
    exact lookups.trans List.filterMap_some

/-- As many searches as there are entries that match list them all, in the order of the
direction. -/
theorem Unsearched.searches_eq (unsearched : history.Unsearched policy) (term : String) :
    history.searches term (history.entries.countP (history.policy.accepts · term)) =
      ((history.direction.arrange history.entries).filter
        fun entry => policy.Fits entry term).map some := by
  rw [← length_hits, ← unsearched.map_hits]
  by_cases matched : history.hits term = []
  · rw [matched]
    rfl
  · rw [searches_eq_route matched, route_length_hits]

end History

namespace HistoryConfig

variable {config : HistoryConfig} {history : History}

theorem unsearched_of_history? (given : config.history? = some history) :
    history.Unsearched config.policy := by
  unfold history? History.of? at given
  split at given <;> cases given
  exact ⟨rfl, rfl⟩

theorem unsearched_applyTo (config : HistoryConfig) {policy : SearchMatch}
    (unsearched : history.Unsearched policy) : (config.applyTo history).Unsearched policy := by
  unfold applyTo
  split
  · exact unsearched
  · exact ⟨unsearched.policyEq, unsearched.lastPosition⟩

/-- A history that is opened from a file holds the newest entries of the file, and nothing has
been found in it. -/
theorem exists_openHistory {files : FileSystem} {store : Store} {bytes : List UInt8}
    (positive : 1 ≤ config.maxSize)
    (storeEq : config.store? files.homePath = .ok (some store))
    (readEq : files.read store.path = .ok bytes) :
    ∃ kept notices, config.openHistory files = .ok (kept, notices) ∧ kept.store = some store ∧
      kept.history.entries =
        collapse ((Store.readable (Store.lines bytes)).rtake config.maxSize.toNat) ∧
      kept.history.Unsearched config.policy := by
  obtain ⟨empty, given⟩ := config.exists_history? positive
  obtain ⟨-, sizeEq, nothing⟩ := history?_eq_some given
  obtain ⟨notices, openEq⟩ := openHistory_of_holds rfl storeEq given (.file readEq)
  refine ⟨_, notices, openEq, rfl, ?_, ?_⟩
  · -- the store has left out what is too old, so there is room for all that is loaded
    let loaded := (Store.readable (Store.lines bytes)).rtake config.maxSize.toNat
    have few : (collapse loaded).length ≤ config.maxSize.toNat := by
      refine (List.destutter_sublist _ loaded).length_le.trans ?_
      rw [length_rtake]
      exact Nat.min_le_left _ _
    rw [entries_applyTo, (nothing.pushAll loaded).entries, History.maxSize_pushAll, sizeEq,
      List.nil_append, rtake_of_length_le few]
  · exact config.unsearched_applyTo ((unsearched_of_history? given).pushAll _)

end HistoryConfig

namespace Command

theorem searchConfig_eq (config : HistoryConfig) (leading : Bool) :
    searchConfig config leading =
      { config with policy := if leading then .leading else config.policy } := by
  cases leading <;> rfl

theorem matchesIn_eq {history : History} {policy : SearchMatch}
    (unsearched : history.Unsearched policy) (term : String) (direction : SearchDirection) :
    matchesIn history term direction =
      ((direction.arrange history.entries).filter fun entry => policy.Fits entry term).map
        some := by
  have turned : (history.setDirection direction).Unsearched policy :=
    ⟨unsearched.policyEq, unsearched.lastPosition⟩
  exact turned.searches_eq term

/-- Whatever a readable history file holds, and whether pushes count or not, the search command
ends well and lists exactly the loaded entries that match, each as often as it was loaded: the
oldest first if it searches forward, and the newest first otherwise.  They are matched at their
beginnings if that is asked for, and by the policy of the configuration otherwise.  No search
fails to find an entry.  Where entries are to contain the term, those that begin with it are
among those that are listed. -/
theorem runSearch_lists_matches {ε : Type} (console : Console) (config : HistoryConfig)
    (files : FileSystem) (store : Store) (bytes : List UInt8) (term : String) (forward : Bool)
    (positive : 1 ≤ config.maxSize)
    (storeEq : config.store? files.homePath = .ok (some store))
    (readEq : files.read store.path = .ok bytes) :
    let loaded := collapse ((Store.readable (Store.lines bytes)).rtake config.maxSize.toNat)
    let inOrder := if forward then loaded else loaded.reverse
    let direction := searchDirection forward
    let listed (policy : SearchMatch) := inOrder.filter fun entry => policy.Fits entry term
    (∀ leading : Bool,
      let policy := if leading then .leading else config.policy
      ∃ kept notices, (searchConfig config leading).openHistory files = .ok (kept, notices) ∧
        kept.history.entries = loaded ∧
        matchesIn kept.history term direction = (listed policy).map some ∧
        (runSearch console config files term forward leading : Report ε) =
          { ending := .exit 0
            output := showMatches console term direction (listed policy)
            files
            notices }) ∧
    (config.policy = .contains → (listed .leading).Sublist (listed config.policy)) := by
  intro loaded inOrder direction listed
  refine ⟨fun leading => ?_, fun containing => ?_⟩
  · intro policy
    have configEq := searchConfig_eq config leading
    have bound : 1 ≤ (searchConfig config leading).maxSize := configEq ▸ positive
    obtain ⟨kept, notices, openEq, stored, entriesEq, unsearched⟩ :=
      HistoryConfig.exists_openHistory bound (configEq ▸ storeEq) readEq
    rw [configEq] at entriesEq unsearched
    have found : matchesIn kept.history term direction = (listed policy).map some := by
      rw [matchesIn_eq unsearched, entriesEq]
      cases forward <;> rfl
    refine ⟨kept, notices, openEq, entriesEq, found, ?_⟩
    have shown : (matchesIn kept.history term direction).filterMap id = listed policy := by
      rw [found, List.filterMap_map]
      exact List.filterMap_some
    simp only [runSearch, withHistory, openEq, stored, Option.isNone_some, Bool.false_eq_true,
      if_false, shown, direction, Report.after, List.append_nil]
  · rw [containing]
    refine List.monotone_filter_right inOrder fun entry begins => ?_
    rw [decide_eq_true_iff] at begins ⊢
    exact begins.contains

/-- Pushes do not count, two of four lines are equal and follow each other, and another one
holds the term in its middle.  Newest first, three entries contain the term and two of them
begin with it. -/
theorem runSearch_lists_matches_newest_first :
    let config : HistoryConfig := { enabled := false, file := some "/h", maxSize := 5 }
    let store : Store := ⟨⟨"/", ["h"]⟩, 5⟩
    let bytes := Store.content ["ab", "ab", "c", "cab", "ab"]
    let files : FileSystem := { nodes := [(["h"], .file ⟨bytes, 0o600⟩)] }
    1 ≤ config.maxSize ∧ config.store? files.homePath = .ok (some store) ∧
      files.read store.path = .ok bytes ∧
      (∃ notices, (runSearch .screen config files "ab" false false : Report) =
        { ending := .exit 0
          output := showMatches .screen "ab" .reverse ["ab", "cab", "ab"]
          files
          notices }) ∧
      ∃ notices, (runSearch .screen config files "ab" false true : Report) =
        { ending := .exit 0
          output := showMatches .screen "ab" .reverse ["ab", "ab"]
          files
          notices } := by
  intro config store bytes files
  have positive : 1 ≤ config.maxSize := by decide
  have storeEq : config.store? files.homePath = .ok (some store) := by decide +kernel
  have readEq : files.read store.path = .ok bytes := by decide +kernel
  obtain ⟨runs, -⟩ := runSearch_lists_matches (ε := Yaml.Error) .screen config files store bytes
    "ab" false positive storeEq readEq
  obtain ⟨-, notices, -, -, -, anywhere⟩ := runs false
  obtain ⟨-, others, -, -, -, atFront⟩ := runs true
  refine ⟨positive, storeEq, readEq, ⟨notices, anywhere.trans ?_⟩, others, atFront.trans ?_⟩
  · congr
    decide +kernel
  · congr
    decide +kernel

end Command

end CookedMode
