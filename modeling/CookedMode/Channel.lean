import CookedMode.Discipline.Sides
import CookedMode.Number.Positive

/-!
# Bounded channels

A channel is a bounded pipe of bytes with one writer and one reader.  Bytes are
accepted in order and become visible to the reader only when they are published.
A full channel publishes what it holds and has its writer wait, so no byte is ever
dropped; a reader that finds nothing published waits too, unless the channel is
closed.

The channel knows who waits.  A wait ends only when the channel notifies, and
whoever is notified tries again.
-/

namespace CookedMode

/-- A bounded pipe of bytes. -/
structure Channel where
  capacity : Nat
  /-- The accepted bytes that no reader has taken, oldest first. -/
  buffer : List UInt8 := []
  /-- How many bytes are announced to the reader. -/
  published : Nat := 0
  closed : Bool := false
  writerWaits : Bool := false
  readerWaits : Bool := false
  capacity_pos : 0 < capacity
  deriving Repr

namespace Channel

/-- How many bytes a channel holds at most unless said otherwise. -/
def standardCapacity : Nat := 1024

/-- The capacity a channel was to get is not positive. -/
structure CapacityError where
  given : Int
  deriving DecidableEq, Repr

/-- The report of a refused capacity. -/
def CapacityError.message (error : CapacityError) : String :=
  "capacity must be at least 1, got " ++ toString error.given

/-- An empty, open channel. -/
def of? (capacity : Int) : Except CapacityError Channel :=
  if positive : capacity < 1 then .error ⟨capacity⟩
  else .ok { capacity := capacity.toNat, capacity_pos := toNat_pos positive }

/-- End every wait. -/
def notify (channel : Channel) : Channel :=
  { channel with writerWaits := false, readerWaits := false }

/-- Announce every byte that is held, and notify. -/
def publish (channel : Channel) : Channel :=
  { channel with published := channel.buffer.length }.notify

/-- Close the channel.  What it holds is published and can still be read. -/
def close (channel : Channel) : Channel :=
  { channel with closed := true }.publish

/-- Offer a byte.  A full channel publishes before its writer waits. -/
def offer (channel : Channel) (byte : UInt8) : Offer Channel :=
  if channel.closed then .refused
  else if channel.capacity ≤ channel.buffer.length then
    .full { channel.publish with writerWaits := true }
  else .taken { channel with buffer := channel.buffer ++ [byte] }

instance : Outlet Channel where
  offer := offer
  publish := publish
  close := close

/-- The answer of a channel to a reader. -/
inductive Take where
  /-- The reader gets these bytes; none at all from a closed and drained channel. -/
  | taken (bytes : List UInt8) (after : Channel)
  /-- Nothing is published; the reader waits and asks again. -/
  | empty (after : Channel)
  /-- More bytes were announced than are held.  The held ones are lost. -/
  | short (after : Channel)

/-- Take up to a number of bytes, at least one of which has to be published.

A negative number takes nothing, and the count of announced bytes grows by its
absolute value. -/
def take (channel : Channel) (size : Int) : Take :=
  if channel.published = 0 then
    if channel.closed then .taken [] channel
    else .empty { channel with readerWaits := true }
  else
    let count := min size channel.published
    if channel.buffer.length < count.toNat then .short { channel with buffer := [] }
    else
      .taken (channel.buffer.take count.toNat)
        { channel with
          buffer := channel.buffer.drop count.toNat
          published := (channel.published - count).toNat }.notify

end Channel

end CookedMode
