import CookedMode.Workspace
import CookedMode.Proofs.History.Restart
import CookedMode.Proofs.Session.Texts

/-!
# Typed lines survive a restart

Whoever types texts into a configured workspace reads them back, and finds them in the
history of the next workspace on the same file.
-/

namespace CookedMode.Workspace

variable {config : Config} {listener : Option Listener} {files : FileSystem}
variable {workspace : Workspace} {notices : List Notice} {store : Store} {held : List String}

theorem exists_dimensions? {config : TerminalConfig} (cols : 0 < config.cols)
    (rows : 0 < config.rows) : ∃ size, config.dimensions? = some size := by
  rw [TerminalConfig.dimensions?, Dimensions.of?, dif_neg (by omega), dif_neg (by omega)]
  exact ⟨_, rfl⟩

theorem exists_channel? {config : TerminalConfig} (capacity : 0 < config.capacity) :
    ∃ channel, config.channel? = some channel := by
  rw [TerminalConfig.channel?, Channel.of?, dif_neg (by omega)]
  exact ⟨_, rfl⟩

theorem eq_of_sessionOf? {config : TerminalConfig} {history : History} {session : Session}
    (given : sessionOf? config listener history = some session) :
    ∃ attributes size channel, config.attributes.attributes? = some attributes ∧
      config.channel? = some channel ∧
      session = { line := { attributes, listener, outlet := channel }, history, size } := by
  unfold sessionOf? at given
  split at given
  · case h_1 attributes size channel attributesEq _ channelEq =>
      cases given
      exact ⟨attributes, size, channel, attributesEq, channelEq, rfl⟩
  · cases given

theorem of_ofConfig (built : ofConfig config listener files = .ok (workspace, notices)) :
    ∃ kept loaded, config.history.openHistory files = .ok (kept, loaded) ∧
      sessionOf? config.terminal listener kept.history = some workspace.session ∧
      workspace.store = kept.store ∧ workspace.files = files := by
  unfold ofConfig at built
  split at built
  · cases built
  · case h_2 kept loaded openEq =>
      split at built
      · cases built
      · case h_2 session given =>
          cases built
          exact ⟨kept, loaded, openEq, given, rfl, rfl⟩

/-- A workspace can be built where its configuration is sensible and its file can be read. -/
theorem exists_ofConfig (config : Config) (listener : Option Listener) {attributes : Attributes}
    (attributesEq : config.terminal.attributes.attributes? = some attributes)
    (cols : 0 < config.terminal.cols) (rows : 0 < config.terminal.rows)
    (capacity : 0 < config.terminal.capacity) (size : 0 < config.history.maxSize)
    (storeEq : config.history.store? files.homePath = .ok (some store))
    (holds : store.Holds files held) :
    ∃ workspace notices, ofConfig config listener files = .ok (workspace, notices) ∧
      workspace.store = some store := by
  obtain ⟨history, historyEq⟩ := config.history.exists_history? size
  obtain ⟨loaded, openEq⟩ := HistoryConfig.openHistory_of_holds rfl storeEq historyEq holds
  obtain ⟨cells, cellsEq⟩ := exists_dimensions? cols rows
  obtain ⟨channel, channelEq⟩ := exists_channel? capacity
  have built : ∃ session notices,
      ofConfig config listener files = .ok (⟨session, some store, files⟩, notices) := by
    simp only [ofConfig, openEq, sessionOf?, attributesEq, cellsEq, channelEq]
    exact ⟨_, _, rfl⟩
  obtain ⟨session, notices, built⟩ := built
  exact ⟨_, notices, built, rfl⟩

theorem opening_of_ofConfig (built : ofConfig config listener files = .ok (workspace, notices)) :
    Feeding.Opening workspace.session ∧ workspace.session.line.listener = listener ∧
      config.terminal.attributes.attributes? = some workspace.session.line.attributes := by
  obtain ⟨kept, loaded, -, given, -⟩ := of_ofConfig built
  obtain ⟨attributes, size, channel, attributesEq, channelEq, sessionEq⟩ := eq_of_sessionOf? given
  have fresh : Channel.of? config.terminal.capacity = .ok channel := by
    unfold TerminalConfig.channel? at channelEq
    cases channelOf : Channel.of? config.terminal.capacity with
    | error => rw [channelOf] at channelEq; cases channelEq
    | ok other =>
        rw [channelOf] at channelEq
        cases channelEq
        rfl
  rw [sessionEq]
  exact ⟨⟨rfl, rfl, ⟨_, fresh⟩, rfl, rfl, rfl, rfl⟩, rfl, attributesEq⟩

theorem remembers_of_ofConfig
    (built : ofConfig config listener files = .ok (workspace, notices))
    (enabled : config.history.enabled = true) (stored : workspace.store = some store)
    (holds : store.Holds files held) :
    0 < config.history.maxSize ∧ config.history.store? files.homePath = .ok (some store) ∧
      workspace.session.history.maxSize = config.history.maxSize.toNat ∧
      workspace.session.history.Remembers (held.rtake config.history.maxSize.toNat) := by
  obtain ⟨kept, loaded, openEq, given, keptEq, -⟩ := of_ofConfig built
  obtain ⟨_, _, _, -, -, sessionEq⟩ := eq_of_sessionOf? given
  obtain ⟨storeEq, empty, emptyEq⟩ := HistoryConfig.of_openHistory openEq (keptEq ▸ stored)
  obtain ⟨positive, sizeEq, nothing⟩ := HistoryConfig.history?_eq_some emptyEq
  obtain ⟨_, openAs⟩ := HistoryConfig.openHistory_of_holds rfl storeEq emptyEq holds
  have remembers := nothing.pushAll (held.rtake config.history.maxSize.toNat)
  rw [openEq, HistoryConfig.applyTo, if_pos enabled] at openAs
  cases openAs
  rw [sessionEq]
  exact ⟨positive, storeEq, by rw [History.maxSize_pushAll, sizeEq], remembers⟩

theorem shutdown_keeping (workspace : Workspace) (number : Nat) :
    (workspace.shutdown number).2 =
      KeptHistory.keep ⟨workspace.session.history, workspace.store⟩ workspace.files := by
  rw [shutdown, keepHistory, Session.act_close]

/-- Texts are typed into a new workspace in cooked mode, cut into calls in any way, while a
reader reads lines.  Whatever the schedule is, the reader is given exactly these texts, in
order.  When it has them all, the workspace can be shut down; whoever then opens a history of
the same size on the same file finds the newest entries of what the file held at first and
of the texts that are not blank, and to keep this history does not change the file. -/
theorem typed_texts_survive (config : Config) (listener : Option Listener)
    (files : FileSystem) (workspace : Workspace) (notices : List Notice) (store : Store)
    (held texts : List String) (chunks : List (List UInt8))
    (built : ofConfig config listener files = .ok (workspace, notices))
    (cooked : config.terminal.attributes.attributes? = some .cooked)
    (enabled : config.history.enabled = true) (stored : workspace.store = some store)
    (records : ∀ registered, listener = some registered → registered.OnlyRecords)
    (holds : store.Holds files held) (typable : ∀ text ∈ texts, Typable text)
    (chunksEq : chunks.flatten = typed texts) :
    let start : Feeding := ⟨workspace.session, chunks.map .input⟩
    let size := config.history.maxSize.toNat
    (∃ bound, ∀ count after, Feeding.Run start count after → count ≤ bound) ∧
    ∀ count after, Feeding.Run start count after →
      after.session.linesRead <+: texts.map some ∧
      (after.Stuck → after.session.linesRead = texts.map some) ∧
      (after.session.linesRead = texts.map some → ∀ number,
        let keeping := ({ workspace with session := after.session }.shutdown number).2
        keeping.error = none ∧
        ∀ again : HistoryConfig, again.file = config.history.file →
          again.maxSize = config.history.maxSize →
          ∃ kept loaded, KeptHistory.Reopens again keeping.files store.path
            ((collapse (held.rtake size ++ nonblank texts)).rtake size) kept loaded) := by
  intro start size
  obtain ⟨opening, listenerEq, attributesEq⟩ := opening_of_ofConfig built
  obtain ⟨positive, storeEq, sizeEq, remembers⟩ :=
    remembers_of_ofConfig built enabled stored holds
  obtain ⟨-, -, -, -, -, filesEq⟩ := of_ofConfig built
  have constant : workspace.session.line.setting.Constant :=
    fun registered isListener => records registered (listenerEq.symm.trans isListener)
  have mode : workspace.session.line.attributes = .cooked :=
    Option.some.inj (attributesEq.symm.trans cooked)
  have reads := opening.readsTexts constant mode typable chunksEq
  refine ⟨reads.finite, fun count after run => ?_⟩
  refine ⟨reads.inOrder count after run, reads.all count after run, fun readAll number => ?_⟩
  -- the history that is kept is the one that all texts were submitted to
  let history := workspace.session.history.pushAll (nonblank texts)
  have historyEq : after.session.history = history := reads.history count after run readAll
  have full := remembers.pushAll (nonblank texts)
  have fullSize : history.maxSize = size := by
    rw [History.maxSize_pushAll, sizeEq]
  have entriesEq := full.entries
  rw [fullSize] at entriesEq
  have saved := holds.save history.kept history.permission
  intro keeping
  have keepingEq : keeping = _ := shutdown_keeping _ number
  rw [keepingEq]
  simp only [historyEq, stored, filesEq, KeptHistory.keep_eq saved, true_and]
  intro again sameFile sameSize
  have againStore : again.store? files.homePath = .ok (some store) := by
    rw [← storeEq, HistoryConfig.store?, HistoryConfig.store?, HistoryConfig.path?,
      HistoryConfig.path?, sameFile, sameSize]
  rw [← entriesEq]
  exact KeptHistory.reopens_of_saved full (sameSize ▸ fullSize) (sameSize ▸ positive) againStore
    saved

/-- The file holds a letter on its first line and no text on its second one.  There is room
for two entries, so the next workspace finds the two texts that were typed, the first of
which repeats the letter. -/
theorem typed_texts_survive_no_text :
    let config : Config := { history := { file := some "/h", maxSize := 2 } }
    let file : File := ⟨[0x61, 0x0A, 0xFF, 0x0A], 0o600⟩
    let files : FileSystem := { nodes := [(["h"], .file file)] }
    ∃ workspace notices, ofConfig config none files = .ok (workspace, notices) ∧
      ∀ count after,
        Feeding.Run ⟨workspace.session, [.input [0x61, 0x0D], .input [0x62, 0x0D]]⟩ count after →
        after.Stuck → after.session.linesRead = [some "a", some "b"] ∧
        ∃ kept loaded, KeptHistory.Reopens config.history
          ({ workspace with session := after.session }.shutdown 2).2.files ⟨"/", ["h"]⟩
          ["a", "b"] kept loaded := by
  intro config file files
  let store : Store := ⟨⟨"/", ["h"]⟩, 2⟩
  have holds : store.Holds files ["a"] := by
    have readEq : files.read store.path = .ok file.bytes := rfl
    have letter : Store.readLine? [0x61] = .ok "a" := by
      rw [Store.readLine?, show Utf8.decode? [0x61] = .ok "a" from Utf8.decode?_encode "a"]
      rfl
    have noText : (Store.readLine? [0xFF]).toOption = none := by
      simp [Store.readLine?, Utf8.decode?, Utf8.lead?, Utf8.pieces]
      rfl
    have heldEq : Store.readable (Store.lines file.bytes) = ["a"] := by
      rw [show Store.lines file.bytes = [[0x61], [0xFF]] by decide, Store.readable]
      simp only [List.filterMap_cons, List.filterMap_nil, noText, letter]
      rfl
    exact heldEq ▸ .file readEq
  have cooked : config.terminal.attributes.attributes? = some .cooked := rfl
  obtain ⟨workspace, notices, built, stored⟩ := exists_ofConfig config none cooked
    (by decide) (by decide) (by decide) (by decide) rfl holds
  refine ⟨workspace, notices, built, fun count after run stuck => ?_⟩
  have unlistened : ∀ registered, (none : Option Listener) = some registered →
      registered.OnlyRecords := by
    intro registered isListener
    cases isListener
  have typable : ∀ text ∈ ["a", "b"], Typable text := by decide
  obtain ⟨-, every⟩ := typed_texts_survive config none files workspace notices store
    ["a"] ["a", "b"] [[0x61, 0x0D], [0x62, 0x0D]] built cooked rfl stored unlistened holds
    typable rfl
  obtain ⟨-, all, restarts⟩ := every count after run
  have readAll := all stuck
  obtain ⟨-, reopens⟩ := restarts readAll 2
  exact ⟨readAll, reopens config.history rfl rfl⟩

end CookedMode.Workspace
