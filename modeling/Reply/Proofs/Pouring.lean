import Mathlib.Data.List.TakeWhile
import Reply.Body

/-!
# Reply.Proofs.Pouring

What a stream gives when it is read to its end.

1. A *chunk* is a delivery that a reader takes and goes on behind: data with
   at least one byte, or an interruption.
2. Reading to the end takes the chunks up to the first other delivery, which
   is an end or a failure, and leaves what stands behind that: `yields`,
   `stop?` and `remains`.
3. However the reads are cut, `Stream.pour` does just that
   (`buffer_pour`, `failure?_pour`, `deliveries_pour`): neither the room of a
   read nor the lengths of the chunks make a difference.
4. What holds of each read, and goes on from one read to the next, holds of
   pouring (`pour_along`).

`Body.contents` is the same view of a body: the bytes of a body that is read to
its end, or the failure that stops it.  `Body.Delivers` says that these bytes come
in memory or in any chunks, which is all the same (`contents_of_delivers`).
-/

namespace Reply

/-! ## deliveries -/

namespace Delivery

/-- The bytes of a delivery; a failure has none. -/
def bytes : Delivery → Bytes
  | .data bytes => bytes
  | .failure _ => []

/-- The failure that a delivery is. -/
def failure? : Delivery → Option IoError
  | .data _ => none
  | .failure error => some error

/-- A delivery that does not end the reading: some data, or an interruption. -/
def isChunk : Delivery → Bool
  | .data bytes => !bytes.isEmpty
  | .failure error => error.isInterrupted

/-- The data of deliveries, whatever stands between them. -/
def content (deliveries : List Delivery) : Bytes := deliveries.flatMap bytes

/-- The bytes that reading to the end gives. -/
def yields (deliveries : List Delivery) : Bytes := content (deliveries.takeWhile isChunk)

/-- The failure at which reading stops, if it does not come to an end. -/
def stop? (deliveries : List Delivery) : Option IoError :=
  (deliveries.dropWhile isChunk).head?.bind failure?

/-- The deliveries behind the one at which reading stops. -/
def remains (deliveries : List Delivery) : List Delivery := (deliveries.dropWhile isChunk).tail

@[simp] theorem content_nil : content [] = [] := rfl

@[simp] theorem content_cons (delivery : Delivery) (rest : List Delivery) :
    content (delivery :: rest) = delivery.bytes ++ content rest := by
  simp [content]

@[simp] theorem content_append (a b : List Delivery) : content (a ++ b) = content a ++ content b :=
  List.flatMap_append

/-- A delivery that ends the reading has no bytes. -/
theorem bytes_eq_nil {delivery : Delivery} (h : delivery.isChunk = false) :
    delivery.bytes = [] := by
  cases delivery with
  | data bytes => simpa [isChunk, Delivery.bytes] using h
  | failure error => rfl

section Cons

variable {delivery : Delivery} (rest : List Delivery)

theorem yields_chunk (h : delivery.isChunk = true) :
    yields (delivery :: rest) = delivery.bytes ++ yields rest := by
  simp [yields, h]

theorem stop?_chunk (h : delivery.isChunk = true) : stop? (delivery :: rest) = stop? rest := by
  simp [stop?, h]

theorem remains_chunk (h : delivery.isChunk = true) :
    remains (delivery :: rest) = remains rest := by
  simp [remains, h]

theorem yields_last (h : delivery.isChunk = false) : yields (delivery :: rest) = [] := by
  simp [yields, h]

theorem stop?_last (h : delivery.isChunk = false) :
    stop? (delivery :: rest) = delivery.failure? := by
  simp [stop?, h]

theorem remains_last (h : delivery.isChunk = false) : remains (delivery :: rest) = rest := by
  simp [remains, h]

end Cons

/-- Reading to the end loses no data: what it does not give is still there. -/
theorem yields_append_content (deliveries : List Delivery) :
    yields deliveries ++ content (remains deliveries) = content deliveries := by
  induction deliveries with
  | nil => rfl
  | cons delivery rest ih =>
    cases h : delivery.isChunk with
    | true => rw [yields_chunk rest h, remains_chunk rest h, content_cons, List.append_assoc, ih]
    | false => rw [yields_last rest h, remains_last rest h, content_cons, bytes_eq_nil h]

/-- Chunks alone give all their data and come to an end. -/
theorem yields_chunks {deliveries : List Delivery} (h : deliveries.all isChunk = true) :
    yields deliveries = content deliveries ∧ stop? deliveries = none ∧ remains deliveries = [] := by
  have all := List.all_eq_true.1 h
  have taken : deliveries.takeWhile isChunk = deliveries := List.takeWhile_eq_self_iff.2 all
  have left : deliveries.dropWhile isChunk = [] := List.dropWhile_eq_nil_iff.2 all
  simp [yields, stop?, remains, taken, left]

end Delivery

/-! ## single reads -/

namespace Stream

open Delivery

/-- What reading the stream to its end gives, stops at and leaves is what the read gives in front
of that which the rest of the stream does. -/
theorem read_ok_cons {stream rest : Stream} {room : Nat} {b : UInt8} {given : Bytes}
    (h : stream.read room = (.ok (b :: given), rest)) :
    yields stream.deliveries = b :: given ++ yields rest.deliveries ∧
      stop? stream.deliveries = stop? rest.deliveries ∧
      remains stream.deliveries = remains rest.deliveries := by
  unfold read at h
  split at h
  · cases h
  · split at h
    · cases h
    · cases h
    · rename_i bytes more deliveries
      simp only [Prod.mk.injEq, Except.ok.injEq] at h
      obtain ⟨taken, rfl⟩ := h
      have chunk : (Delivery.data bytes).isChunk = true := by
        cases bytes with
        | nil => simp at taken
        | cons => rfl
      rw [deliveries, yields_chunk more chunk, stop?_chunk more chunk, remains_chunk more chunk,
        ← taken]
      by_cases left : (bytes.drop room).isEmpty
      · have whole := List.take_append_drop room bytes
        rw [List.isEmpty_iff.1 left, List.append_nil] at whole
        simp [left, whole, Delivery.bytes]
      · have chunk' : (Delivery.data (bytes.drop room)).isChunk = true := by
          simpa [isChunk] using left
        simp only [left, Bool.false_eq_true, if_false]
        rw [yields_chunk more chunk', stop?_chunk more chunk', remains_chunk more chunk']
        simp [Delivery.bytes, ← List.append_assoc]

/-- A read that gives nothing is the end, unless it had no room. -/
theorem read_ok_nil {stream rest : Stream} {room : Nat} (hroom : 0 < room)
    (h : stream.read room = (.ok [], rest)) :
    yields stream.deliveries = [] ∧ stop? stream.deliveries = none ∧
      remains stream.deliveries = rest.deliveries := by
  unfold read at h
  rw [if_neg (by omega)] at h
  split at h
  · rename_i deliveries
    cases h
    simp [deliveries, note, yields, stop?, remains]
  · cases h
  · rename_i bytes more deliveries
    simp only [Prod.mk.injEq, Except.ok.injEq, List.take_eq_nil_iff] at h
    obtain ⟨taken, rfl⟩ := h
    obtain rfl : bytes = [] := by
      rcases taken with none | none
      · omega
      · exact none
    have last : (Delivery.data []).isChunk = false := rfl
    rw [deliveries, yields_last more last, stop?_last more last, remains_last more last]
    simp [Delivery.failure?]

/-- A read that fails is where reading stops, unless it was only interrupted. -/
theorem read_error {stream rest : Stream} {room : Nat} {error : IoError}
    (h : stream.read room = (.error error, rest)) :
    stream.deliveries = .failure error :: rest.deliveries := by
  unfold read at h
  split at h
  · cases h
  · split at h
    · cases h
    · rename_i deliveries
      cases h
      exact deliveries
    · cases h

/-! ## pouring -/

/-- What holds of each read, and goes on from one read to the next, holds of pouring. -/
theorem pour_along {R : Stream → Stream → Prop} {room : Nat}
    (once : ∀ stream : Stream, R stream (stream.read room).2)
    (next : ∀ ⦃a b c : Stream⦄, R a b → R b c → R a c) (stream : Stream) (buffer : Buffer) :
    R stream (stream.pour room buffer).stream := by
  fun_induction pour room stream buffer with
  | case1 stream _ rest given => simpa only [given] using once stream
  | case2 stream _ _ _ rest given ih =>
    have first := once stream
    rw [given] at first
    exact next first ih
  | case3 stream _ _ rest given _ ih =>
    have first := once stream
    rw [given] at first
    exact next first ih
  | case4 stream _ _ rest given => simpa only [given] using once stream

/-- Pouring puts what the stream yields into the buffer, and fails where the stream does. -/
theorem pour_eq {room : Nat} (hroom : 0 < room) (stream : Stream) (buffer : Buffer) :
    (stream.pour room buffer).buffer = buffer.push (yields stream.deliveries) ∧
      (stream.pour room buffer).failure? = stop? stream.deliveries ∧
      (stream.pour room buffer).stream.deliveries = remains stream.deliveries := by
  fun_induction pour room stream buffer with
  | case1 stream buffer rest given =>
    obtain ⟨none, ended, left⟩ := read_ok_nil hroom given
    rw [none, ended, left]
    exact ⟨rfl, rfl, rfl⟩
  | case2 stream buffer b given rest read ih =>
    obtain ⟨some, stopped, left⟩ := read_ok_cons read
    rw [some, stopped, left, ← Buffer.push_push]
    exact ih
  | case3 stream buffer error rest failed interrupted ih =>
    have chunk : (Delivery.failure error).isChunk = true := interrupted
    rw [read_error failed, yields_chunk _ chunk, stop?_chunk _ chunk, remains_chunk _ chunk]
    exact ih
  | case4 stream buffer error rest failed stopped =>
    have last : (Delivery.failure error).isChunk = false := Bool.eq_false_iff.2 stopped
    rw [read_error failed, yields_last _ last, stop?_last _ last, remains_last _ last]
    exact ⟨rfl, rfl, rfl⟩

theorem buffer_pour {room : Nat} (hroom : 0 < room) (stream : Stream) (buffer : Buffer) :
    (stream.pour room buffer).buffer = buffer.push (yields stream.deliveries) :=
  (pour_eq hroom stream buffer).1

theorem failure?_pour {room : Nat} (hroom : 0 < room) (stream : Stream) (buffer : Buffer) :
    (stream.pour room buffer).failure? = stop? stream.deliveries :=
  (pour_eq hroom stream buffer).2.1

theorem deliveries_pour {room : Nat} (hroom : 0 < room) (stream : Stream) (buffer : Buffer) :
    (stream.pour room buffer).stream.deliveries = remains stream.deliveries :=
  (pour_eq hroom stream buffer).2.2

theorem copyRoom_pos : 0 < copyRoom := by decide

theorem gatherRoom_pos : 0 < gatherRoom := by decide

end Stream

/-! ## bodies -/

namespace Body

/-- The bytes of a body that is read to its end, or the failure that stops it. -/
def contents : Body → Except IoError Bytes
  | buffered buffer => .ok buffer.toList
  | streaming stream =>
    match Delivery.stop? stream.deliveries with
    | some error => .error error
    | none => .ok (Delivery.yields stream.deliveries)
  | closed => .error .consumed

/-- The body brings these bytes: in memory, or by a stream in any chunks. -/
def Delivers (bytes : Bytes) : Body → Prop
  | buffered buffer => buffer.toList = bytes
  | streaming stream =>
    stream.deliveries.all Delivery.isChunk = true ∧ Delivery.content stream.deliveries = bytes
  | closed => False

/-- It makes no difference to the contents how they are brought. -/
theorem contents_of_delivers {bytes : Bytes} {body : Body} (delivered : body.Delivers bytes) :
    body.contents = .ok bytes := by
  cases body with
  | buffered buffer => exact congrArg Except.ok delivered
  | streaming stream =>
    obtain ⟨chunks, rfl⟩ := delivered
    obtain ⟨all, ended, -⟩ := Delivery.yields_chunks chunks
    simp only [contents, ended, all]
  | closed => exact delivered.elim

/-- Taking the whole body answers its contents. -/
theorem answer_readAll (body : Body) : (readAll.run body).answer = body.contents := by
  cases body with
  | buffered | closed => rfl
  | streaming stream =>
    have failed := Stream.failure?_pour Stream.gatherRoom_pos stream ∅
    have filled := Stream.buffer_pour Stream.gatherRoom_pos stream ∅
    cases stopped : Delivery.stop? stream.deliveries <;>
      simp [Operation.run, readAll, contents, Stream.gather, failed, filled, stopped]

/-- So does looking at it. -/
theorem answer_snapshot (body : Body) : (snapshot.run body).answer = body.contents := by
  cases body with
  | buffered | closed => rfl
  | streaming stream =>
    have failed := Stream.failure?_pour Stream.copyRoom_pos stream ∅
    have filled := Stream.buffer_pour Stream.copyRoom_pos stream ∅
    cases stopped : Delivery.stop? stream.deliveries <;>
      simp [Operation.run, snapshot, contents, failed, filled, stopped]

end Body

end Reply
