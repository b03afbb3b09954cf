import CookedMode.Channel

/-!
# Sound channels

A channel is sound if what it announces and who waits for it agree with the bytes that it
holds.  A fresh channel is sound, and every operation keeps it so.  On a sound channel a
reader that asks for a nonnegative number of bytes is never told that some are missing.
-/

namespace CookedMode.Channel

/-- What a channel announces, and who waits for it, agree with what it holds. -/
structure Sound (channel : Channel) : Prop where
  published_le : channel.published ≤ channel.buffer.length
  length_le : channel.buffer.length ≤ channel.capacity
  /-- A closed channel announces everything. -/
  closed : channel.closed = true → channel.published = channel.buffer.length
  /-- A writer waits for room, with everything announced. -/
  writer : channel.writerWaits = true → channel.closed = false ∧
    channel.published = channel.buffer.length ∧ channel.capacity ≤ channel.buffer.length
  /-- A reader waits for an announcement. -/
  reader : channel.readerWaits = true → channel.closed = false ∧ channel.published = 0

variable {channel after : Channel} {bytes : List UInt8} {byte : UInt8} {size : Int}

@[simp] theorem buffer_publish : channel.publish.buffer = channel.buffer := rfl

@[simp] theorem published_publish : channel.publish.published = channel.buffer.length := rfl

@[simp] theorem closed_publish : channel.publish.closed = channel.closed := rfl

@[simp] theorem capacity_publish : channel.publish.capacity = channel.capacity := rfl

@[simp] theorem buffer_close : channel.close.buffer = channel.buffer := rfl

@[simp] theorem published_close : channel.close.published = channel.buffer.length := rfl

@[simp] theorem closed_close : channel.close.closed = true := rfl

@[simp] theorem capacity_close : channel.close.capacity = channel.capacity := rfl

theorem eq_of_of? {capacity : Int} (fresh : of? capacity = .ok channel) :
    (channel.capacity : Int) = capacity ∧ channel.buffer = [] ∧ channel.published = 0 ∧
      channel.closed = false := by
  simp only [of?] at fresh
  split at fresh <;> cases fresh
  exact ⟨by simp only; omega, rfl, rfl, rfl⟩

theorem awake_of_of? {capacity : Int} (fresh : of? capacity = .ok channel) :
    channel.writerWaits = false ∧ channel.readerWaits = false := by
  simp only [of?] at fresh
  split at fresh <;> cases fresh
  exact ⟨rfl, rfl⟩

/-- A channel that was just made is sound. -/
theorem sound_of_of? {capacity : Int} (fresh : of? capacity = .ok channel) : channel.Sound := by
  simp only [of?] at fresh
  split at fresh <;> cases fresh
  constructor <;> simp

theorem Sound.publish (sound : channel.Sound) : channel.publish.Sound where
  published_le := Nat.le_refl _
  length_le := sound.length_le
  closed _ := rfl
  writer waits := by cases waits
  reader waits := by cases waits

theorem Sound.close (sound : channel.Sound) : channel.close.Sound where
  published_le := Nat.le_refl _
  length_le := sound.length_le
  closed _ := rfl
  writer waits := by cases waits
  reader waits := by cases waits

/-- The answers of a channel to a writer. -/
inductive Received (channel : Channel) (byte : UInt8) : Offer Channel → Prop where
  | refused (closed : channel.closed = true) : Received channel byte .refused
  | full (isOpen : channel.closed = false) (full : channel.capacity ≤ channel.buffer.length) :
      Received channel byte (.full { channel.publish with writerWaits := true })
  | taken (isOpen : channel.closed = false) (room : channel.buffer.length < channel.capacity) :
      Received channel byte (.taken { channel with buffer := channel.buffer ++ [byte] })

theorem received_offer (channel : Channel) (byte : UInt8) :
    Received channel byte (channel.offer byte) := by
  unfold offer
  split
  case isTrue closed => exact .refused closed
  case isFalse isOpen =>
    split
    case isTrue full => exact .full (by simpa using isOpen) full
    case isFalse room => exact .taken (by simpa using isOpen) (by omega)

theorem eq_of_offer_taken (offerEq : channel.offer byte = .taken after) :
    channel.closed = false ∧ channel.buffer.length < channel.capacity ∧
      after = { channel with buffer := channel.buffer ++ [byte] } := by
  have received := received_offer channel byte
  rw [offerEq] at received
  cases received with
  | taken isOpen room => exact ⟨isOpen, room, rfl⟩

theorem eq_of_offer_full (offerEq : channel.offer byte = .full after) :
    channel.closed = false ∧ channel.capacity ≤ channel.buffer.length ∧
      after = { channel.publish with writerWaits := true } := by
  have received := received_offer channel byte
  rw [offerEq] at received
  cases received with
  | full isOpen full => exact ⟨isOpen, full, rfl⟩

/-- A byte is only taken where there is room for it, so no writer waits by then. -/
theorem Sound.offer_taken (sound : channel.Sound) (offerEq : channel.offer byte = .taken after) :
    after.Sound := by
  obtain ⟨isOpen, room, rfl⟩ := eq_of_offer_taken offerEq
  exact
    { published_le := by simpa using Nat.le_succ_of_le sound.published_le
      length_le := by rw [List.length_append]; exact room
      closed := fun closed => by simp [isOpen] at closed
      writer := fun waits => by
        have := sound.writer waits
        omega
      reader := sound.reader }

/-- A full channel has its writer wait only after it has published. -/
theorem Sound.offer_full (sound : channel.Sound) (offerEq : channel.offer byte = .full after) :
    after.Sound := by
  obtain ⟨isOpen, full, rfl⟩ := eq_of_offer_full offerEq
  exact { sound.publish with writer := fun _ => ⟨isOpen, rfl, full⟩ }

/-- The answers of a sound channel to a reader that asks for up to a number of bytes. -/
inductive Served (channel : Channel) (size : Nat) : Take → Prop where
  /-- Nothing is left, and nothing more can come. -/
  | ended (closed : channel.closed = true) (drained : channel.buffer = []) :
      Served channel size (.taken [] channel)
  /-- Nothing is announced. -/
  | waits (isOpen : channel.closed = false) (silent : channel.published = 0) :
      Served channel size (.empty { channel with readerWaits := true })
  /-- The oldest bytes are taken, as far as they are announced. -/
  | some (count : Nat) (countEq : count = min size channel.published)
      (announced : 0 < channel.published) :
      Served channel size
        (.taken (channel.buffer.take count)
          { channel with
            buffer := channel.buffer.drop count
            published := channel.published - count }.notify)

theorem Sound.served_take (sound : channel.Sound) (size : Nat) :
    Served channel size (channel.take size) := by
  unfold take
  split
  case isTrue silent =>
    split
    case isTrue closed =>
      have := sound.closed closed
      exact .ended closed (List.length_eq_zero_iff.mp (by omega))
    case isFalse isOpen => exact .waits (by simpa using isOpen) silent
  case isFalse announced =>
    have countEq : (min (size : Int) channel.published).toNat = min size channel.published := by
      omega
    have leftEq : ((channel.published : Int) - min (size : Int) channel.published).toNat =
        channel.published - min size channel.published := by
      omega
    have := sound.published_le
    simp only [countEq, leftEq]
    rw [if_neg (by omega)]
    exact .some _ rfl (Nat.pos_of_ne_zero announced)

/-- The bytes that are taken are the oldest ones. -/
theorem Served.buffer_eq {size : Nat} (served : Served channel size (.taken bytes after)) :
    channel.buffer = bytes ++ after.buffer := by
  cases served with
  | ended => rfl
  | some count => exact (List.take_append_drop count channel.buffer).symm

/-- Taking bytes neither closes a channel nor changes its capacity. -/
theorem Served.kept {size : Nat} (served : Served channel size (.taken bytes after)) :
    after.capacity = channel.capacity ∧ after.closed = channel.closed := by
  cases served <;> exact ⟨rfl, rfl⟩

/-- Each byte that is taken was announced. -/
theorem Served.published_eq {size : Nat} (served : Served channel size (.taken bytes after))
    (sound : channel.Sound) : channel.published = bytes.length + after.published := by
  have := sound.published_le
  cases served with
  | ended _ drained => simp
  | some count countEq => simp [Channel.notify]; omega

/-- A reader that asks for something gets nothing only at the end. -/
theorem Served.ended_of_nil {size : Nat} (served : Served channel size (.taken [] after))
    (sound : channel.Sound) (positive : 0 < size) :
    channel.closed = true ∧ channel.buffer = [] := by
  generalize takenEq : Take.taken [] after = take at served
  cases served with
  | ended closed drained => exact ⟨closed, drained⟩
  | waits => cases takenEq
  | some count countEq announced =>
      injection takenEq with nothing
      have lengthEq : (channel.buffer.take count).length = 0 := by rw [← nothing]; rfl
      rw [List.length_take] at lengthEq
      have := sound.published_le
      omega

theorem Served.sound {size : Nat} (served : Served channel size (.taken bytes after))
    (sound : channel.Sound) : after.Sound := by
  have := sound.published_le
  have := sound.length_le
  cases served with
  | ended => exact sound
  | some count countEq announced =>
      exact
        { published_le := by simp [Channel.notify]; omega
          length_le := by simp [Channel.notify]; omega
          closed := fun closed => by
            have := sound.closed closed
            simp [Channel.notify]
            omega
          writer := fun waits => by cases waits
          reader := fun waits => by cases waits }

/-- A reader that finds nothing announced waits for an announcement. -/
theorem Served.sound_empty {size : Nat} (served : Served channel size (.empty after))
    (sound : channel.Sound) : after.Sound := by
  cases served with
  | waits isOpen silent => exact { sound with reader := fun _ => ⟨isOpen, silent⟩ }

end CookedMode.Channel
