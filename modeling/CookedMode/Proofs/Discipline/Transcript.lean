import CookedMode.Discipline.Basic

/-!
# Transcripts of typed bytes

A transcript says what comes of typed bytes without any tasks: one block of events for
each byte, determined by the byte and the setting in force when its turn comes.  The
setting is all that a harmless listener can change while it is told of a signal.
-/

namespace CookedMode

/-- What a listener can change of a discipline. -/
structure Setting where
  attributes : Attributes := {}
  listener : Option Listener := none

namespace Setting

/-- The setting after an action.  Actions of other kinds leave it as it is. -/
def change (setting : Setting) : Action → Setting
  | .setAttributes attributes => { setting with attributes }
  | .setFlag flag value => { setting with attributes := setting.attributes.setFlag flag value }
  | .bind control value =>
    match setting.attributes.bind? control value with
    | .ok attributes => { setting with attributes }
    | .error _ => setting
  | .listen listener => { setting with listener }
  | _ => setting

end Setting

/-- An action that does not fail and changes nothing but the setting. -/
def Action.IsAdjustment : Action → Prop
  | .setAttributes _ | .setFlag _ _ | .listen _ => True
  | .bind _ value => ∀ given, value = some given → 0 ≤ given ∧ given ≤ 0xFF
  | _ => False

namespace Listener

/-- A listener that takes note of signals and changes nothing but the setting.  Whoever it
registers in its place is no different. -/
inductive OnlyAdjusts : Listener → Prop where
  | leaf {name : String} {reaction : Signal → List Action}
      (adjusts : ∀ signal, ∀ action ∈ reaction signal, action.IsAdjustment)
      (successors : ∀ signal listener, .listen (some listener) ∈ reaction signal →
        OnlyAdjusts listener) :
      OnlyAdjusts (.leaf name reaction)
  | group {members : List Listener} (each : ∀ member ∈ members, OnlyAdjusts member) :
      OnlyAdjusts (.group members)

/-- A listener that only takes note of signals. -/
inductive OnlyRecords : Listener → Prop where
  | leaf {name : String} {reaction : Signal → List Action}
      (silent : ∀ signal, reaction signal = []) : OnlyRecords (.leaf name reaction)
  | group {members : List Listener} (each : ∀ member ∈ members, OnlyRecords member) :
      OnlyRecords (.group members)

mutual

/-- The single listeners that make up a listener, with their reactions, in the order in
which they are told. -/
def leaves : Listener → List (String × (Signal → List Action))
  | .leaf name reaction => [(name, reaction)]
  | .group members => leavesOf members

/-- The single listeners that make up some listeners. -/
def leavesOf : List Listener → List (String × (Signal → List Action))
  | [] => []
  | member :: rest => member.leaves ++ leavesOf rest

end

/-- What is written down when a listener is told of a signal. -/
def heard (listener : Listener) (signal : Signal) : List Event :=
  listener.leaves.map fun (name, _) => .told name signal

/-- What a listener does when it is told of a signal. -/
def reactions (listener : Listener) (signal : Signal) : List Action :=
  listener.leaves.flatMap fun (_, reaction) => reaction signal

theorem leavesOf_eq_flatMap (members : List Listener) :
    leavesOf members = members.flatMap leaves := by
  induction members with
  | nil => rfl
  | cons member rest ih => simp [leavesOf, ih]

@[simp] theorem heard_leaf (name : String) (reaction : Signal → List Action)
    (signal : Signal) : heard (.leaf name reaction) signal = [.told name signal] := rfl

@[simp] theorem heard_group (members : List Listener) (signal : Signal) :
    heard (.group members) signal = members.flatMap fun member => member.heard signal := by
  simp only [heard, leaves, leavesOf_eq_flatMap, List.map_flatMap]

@[simp] theorem reactions_leaf (name : String) (reaction : Signal → List Action)
    (signal : Signal) : reactions (.leaf name reaction) signal = reaction signal := by
  simp [reactions, leaves]

@[simp] theorem reactions_group (members : List Listener) (signal : Signal) :
    reactions (.group members) signal =
      members.flatMap fun member => member.reactions signal := by
  simp only [reactions, leaves, leavesOf_eq_flatMap, List.flatMap_assoc]

/-- Whoever a listener that only adjusts registers only adjusts as well. -/
theorem OnlyAdjusts.successor {listener successor : Listener} {signal : Signal}
    (adjusts : listener.OnlyAdjusts)
    (registers : .listen (some successor) ∈ listener.reactions signal) :
    successor.OnlyAdjusts := by
  induction adjusts with
  | leaf _ successors _ => exact successors signal successor (by simpa using registers)
  | group _ ih =>
      simp only [reactions_group, List.mem_flatMap] at registers
      obtain ⟨member, isMember, registers⟩ := registers
      exact ih member isMember registers

theorem OnlyRecords.onlyAdjusts {listener : Listener} (records : listener.OnlyRecords) :
    listener.OnlyAdjusts := by
  induction records with
  | leaf silent => exact .leaf (by simp [silent]) (by simp [silent])
  | group _ ih => exact .group ih

theorem OnlyRecords.reactions_eq_nil {listener : Listener} (records : listener.OnlyRecords)
    (signal : Signal) : listener.reactions signal = [] := by
  induction records with
  | leaf silent => simp [silent]
  | group _ ih => simpa using ih

end Listener

namespace Transcript

/-- The control character that a byte acts as: the first that is bound to it. -/
def control? (attributes : Attributes) (byte : UInt8) : Option ControlChar :=
  if ¬attributes.isig then none
  else if attributes.intr = some byte then some .intr
  else if attributes.quit = some byte then some .quit
  else if attributes.susp = some byte then some .susp
  else if attributes.status = some byte then some .status
  else none

/-- The caret form of a control byte, written and flushed. -/
def caret (byte : UInt8) : List Event :=
  if (1 ≤ byte ∧ byte ≤ 31) ∨ byte = 127 then [.wrote [0x5E, byte ^^^ 0x40], .flushed] else []

/-- What a byte is turned into, unless it is dropped. -/
def translate? (attributes : Attributes) (byte : UInt8) : Option UInt8 :=
  if byte = 0x0D ∧ attributes.igncr then none
  else if byte = 0x0D ∧ attributes.icrnl then some 0x0A
  else if byte = 0x0A ∧ attributes.inlcr then some 0x0D
  else some byte

/-- The echo of a byte. -/
def echo (attributes : Attributes) (byte : UInt8) : List Event :=
  if ¬attributes.echo then []
  else if byte = 0x0A ∧ attributes.opost ∧ attributes.onlcr then
    [.wrote [0x0D, 0x0A], .flushed]
  else [.wrote [byte], .flushed]

/-- What comes of a byte as data. -/
def passage (attributes : Attributes) (byte : UInt8) : List Event :=
  match translate? attributes byte with
  | none => []
  | some byte => echo attributes byte ++ [.delivered byte]

/-- What is written down when the listener of a setting is told of a signal. -/
def heard (setting : Setting) (signal : Signal) : List Event :=
  match setting.listener with
  | none => []
  | some listener => listener.heard signal

/-- The events that come of a byte. -/
def block (setting : Setting) (byte : UInt8) : List Event :=
  match control? setting.attributes byte with
  | none => passage setting.attributes byte
  | some .intr => caret byte ++ heard setting .int
  | some .quit => caret byte ++ heard setting .quit
  | some .susp => caret byte ++ heard setting .susp
  | some .status => heard setting .info ++ passage setting.attributes byte

/-- The setting after the listener has been told of a signal. -/
def told (setting : Setting) (signal : Signal) : Setting :=
  match setting.listener with
  | none => setting
  | some listener => (listener.reactions signal).foldl Setting.change setting

/-- The setting after a byte. -/
def next (setting : Setting) (byte : UInt8) : Setting :=
  match control? setting.attributes byte with
  | none => setting
  | some control => told setting control.signal

/-- The events that come of some bytes. -/
def events (setting : Setting) : List UInt8 → List Event
  | [] => []
  | byte :: rest => block setting byte ++ events (next setting byte) rest

/-- The setting after some bytes. -/
def final (setting : Setting) (data : List UInt8) : Setting :=
  data.foldl next setting

end Transcript

namespace Setting

/-- Whoever is told of signals only adjusts. -/
def Harmless (setting : Setting) : Prop :=
  ∀ listener, setting.listener = some listener → listener.OnlyAdjusts

theorem Harmless.change {setting : Setting} {action : Action} (harmless : setting.Harmless)
    (registers : ∀ listener, action = .listen (some listener) → listener.OnlyAdjusts) :
    (setting.change action).Harmless := by
  cases action with
  | listen listener =>
      intro registered isRegistered
      exact registers registered (by rw [← isRegistered]; rfl)
  | bind control value =>
      simp only [Setting.change]
      split
      · exact harmless
      · exact harmless
  | _ => exact harmless

theorem Harmless.changes {setting : Setting} {actions : List Action}
    (harmless : setting.Harmless)
    (registers : ∀ listener, .listen (some listener) ∈ actions → listener.OnlyAdjusts) :
    (actions.foldl Setting.change setting).Harmless := by
  induction actions generalizing setting with
  | nil => exact harmless
  | cons action actions ih =>
      apply ih
      · exact harmless.change fun listener isListen => registers listener (by simp [isListen])
      · exact fun listener isMember => registers listener (by simp [isMember])

/-- A harmless setting stays one from byte to byte. -/
theorem Harmless.next {setting : Setting} (harmless : setting.Harmless) (byte : UInt8) :
    (Transcript.next setting byte).Harmless := by
  unfold Transcript.next Transcript.told
  split
  · exact harmless
  · split
    · exact harmless
    · case h_2 listenerEq =>
        exact harmless.changes fun _ isMember => (harmless _ listenerEq).successor isMember

/-- Whoever is told of signals only takes note of them. -/
def Constant (setting : Setting) : Prop :=
  ∀ listener, setting.listener = some listener → listener.OnlyRecords

theorem Constant.harmless {setting : Setting} (constant : setting.Constant) :
    setting.Harmless :=
  fun listener registered => (constant listener registered).onlyAdjusts

end Setting

namespace Transcript

variable {setting : Setting}

theorem next_of_constant (constant : setting.Constant) (byte : UInt8) :
    next setting byte = setting := by
  simp only [next, told]
  split
  · rfl
  · split
    · rfl
    · case h_2 listener registered =>
        rw [(constant listener registered).reactions_eq_nil]
        rfl

theorem final_of_constant (constant : setting.Constant) (data : List UInt8) :
    final setting data = setting := by
  induction data with
  | nil => rfl
  | cons byte data ih =>
      rw [final, List.foldl_cons, next_of_constant constant]
      exact ih

/-- As long as nothing changes, each byte has its block. -/
theorem events_of_constant (constant : setting.Constant) (data : List UInt8) :
    events setting data = data.flatMap (block setting) := by
  induction data with
  | nil => rfl
  | cons byte data ih =>
      rw [events, next_of_constant constant, ih]
      rfl

/-- Typing neither publishes nor closes anything. -/
theorem not_mem_block {event : Event} (outer : event = .published ∨ event = .closed)
    (setting : Setting) (byte : UInt8) : event ∉ block setting byte := by
  have heard (signal : Signal) : event ∉ heard setting signal := by
    unfold Transcript.heard
    split <;> rcases outer with rfl | rfl <;> simp [Listener.heard]
  have caret : event ∉ caret byte := by
    unfold Transcript.caret
    split <;> rcases outer with rfl | rfl <;> simp
  have passage : event ∉ passage setting.attributes byte := by
    unfold Transcript.passage Transcript.echo
    split
    · simp
    · split
      · rcases outer with rfl | rfl <;> simp
      · split <;> rcases outer with rfl | rfl <;> simp
  unfold block
  split <;> simp [heard, caret, passage]

theorem closed_not_mem_block (setting : Setting) (byte : UInt8) :
    .closed ∉ block setting byte :=
  not_mem_block (.inr rfl) setting byte

theorem published_not_mem_events (setting : Setting) (data : List UInt8) :
    .published ∉ events setting data := by
  induction data generalizing setting with
  | nil => simp [events]
  | cons byte data ih =>
      rw [events, List.mem_append, not_or]
      exact ⟨not_mem_block (.inl rfl) setting byte, ih (next setting byte)⟩

/-- What comes of typing in several calls, each of which publishes at its end. -/
def fed (setting : Setting) (chunks : List (List UInt8)) : List Event :=
  chunks.flatMap fun chunk => chunk.flatMap (block setting) ++ [.published]

theorem closed_not_mem_fed (setting : Setting) (chunks : List (List UInt8)) :
    .closed ∉ fed setting chunks := by
  simp [fed, closed_not_mem_block]

/-- If anything comes of the calls at all, a publication is the last that does. -/
theorem eq_published_of_fed {setting : Setting} {chunks : List (List UInt8)} {event : Event}
    (last : (fed setting chunks).getLast? = some event) : event = .published := by
  rcases List.eq_nil_or_concat chunks with rfl | ⟨above, chunk, rfl⟩
  · cases last
  · rw [fed, List.concat_eq_append, List.flatMap_append, List.flatMap_singleton,
      ← List.append_assoc, List.getLast?_concat] at last
    exact (Option.some.inj last).symm

/-- Whoever does not see publications does not see how the bytes were cut. -/
theorem view_fed {α : Type} (view : List Event → List α)
    (append : ∀ first second, view (first ++ second) = view first ++ view second)
    (published : view [.published] = []) (setting : Setting) (chunks : List (List UInt8)) :
    view (fed setting chunks) = view (chunks.flatten.flatMap (block setting)) := by
  induction chunks with
  | nil => rfl
  | cons chunk chunks ih =>
      rw [List.flatten_cons, List.flatMap_append, append, ← ih, fed, List.flatMap_cons, append,
        append, published, List.append_nil]
      rfl

end Transcript

end CookedMode
