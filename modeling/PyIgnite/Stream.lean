import PyIgnite.Bytes

/-!
# PyIgnite.Stream

The seekable in-memory buffer that requests are written to. `BinaryStream` (`pyignite.stream`)
is not among the sources; it delegates `tell`, `seek`, `write` and `getvalue` to an
`io.BytesIO`, whose semantics this module follows: the position may lie past the end of the
buffer; a non-empty write there first fills the gap with zero bytes; a write overwrites from the
position on and extends the buffer where it runs past the end; an empty write does nothing.

The query layer uses the buffer in one pattern, "reserve, fill, patch": skip the header with a
relative seek, let the codecs append the body, seek back and overwrite the header.
`reserved orig h body` is the buffer in the middle of that pattern, and

* `seekCur_reserve`, `write_reserved`: the skip and each append keep that shape;
* `patch_reserved`: the final overwrite gives `orig ++ header ++ body`, also when the body is
  empty and the gap was never filled.
-/

namespace PyIgnite

/-- Modelled from the spec: `BinaryStream`, a seekable in-memory buffer (`io.BytesIO`): its
bytes and the current position, which may lie past the end. -/
structure BinaryStream where
  buf : List UInt8
  pos : Nat
  deriving Repr, DecidableEq

namespace BinaryStream

def empty : BinaryStream := ⟨[], 0⟩

def tell (s : BinaryStream) : Nat := s.pos

def seek (s : BinaryStream) (offset : Nat) : BinaryStream := { s with pos := offset }

def seekCur (s : BinaryStream) (offset : Nat) : BinaryStream := { s with pos := s.pos + offset }

/-- `write(data)`, as `io.BytesIO.write` does it. -/
def write (s : BinaryStream) (data : List UInt8) : BinaryStream :=
  if data = [] then s
  else
    let padded := s.buf ++ List.replicate (s.pos - s.buf.length) 0
    { buf := padded.take s.pos ++ data ++ padded.drop (s.pos + data.length)
      pos := s.pos + data.length }

def getvalue (s : BinaryStream) : List UInt8 := s.buf

@[simp] theorem empty_buf : empty.buf = [] := rfl
@[simp] theorem empty_pos : empty.pos = 0 := rfl
@[simp] theorem seek_buf (s : BinaryStream) (o : Nat) : (s.seek o).buf = s.buf := rfl
@[simp] theorem seek_pos (s : BinaryStream) (o : Nat) : (s.seek o).pos = o := rfl
@[simp] theorem seekCur_buf (s : BinaryStream) (o : Nat) : (s.seekCur o).buf = s.buf := rfl
@[simp] theorem seekCur_pos (s : BinaryStream) (o : Nat) : (s.seekCur o).pos = s.pos + o := rfl
@[simp] theorem tell_eq (s : BinaryStream) : s.tell = s.pos := rfl
@[simp] theorem getvalue_eq (s : BinaryStream) : s.getvalue = s.buf := rfl
@[simp] theorem write_nil (s : BinaryStream) : s.write [] = s := by simp [write]

@[simp] theorem write_pos (s : BinaryStream) (data : List UInt8) :
    (s.write data).pos = s.pos + data.length := by
  unfold write; split <;> simp_all

theorem write_at_end {s : BinaryStream} (h : s.pos = s.buf.length) (data : List UInt8) :
    s.write data = ⟨s.buf ++ data, s.pos + data.length⟩ := by
  cases s
  unfold write; split <;> simp_all

theorem write_past_end {s : BinaryStream} (h : s.buf.length ≤ s.pos) {data : List UInt8}
    (hd : data ≠ []) :
    s.write data = ⟨s.buf ++ List.replicate (s.pos - s.buf.length) 0 ++ data,
      s.pos + data.length⟩ := by
  simp only [write, hd, if_false]
  rw [List.take_of_length_le (by simp; omega), List.drop_eq_nil_of_le (by simp; omega),
    List.append_nil]

theorem write_inside {s : BinaryStream} {data : List UInt8}
    (h : s.pos + data.length ≤ s.buf.length) :
    s.write data = ⟨s.buf.take s.pos ++ data ++ s.buf.drop (s.pos + data.length),
      s.pos + data.length⟩ := by
  unfold write; split
  · simp_all
  · simp [show s.pos - s.buf.length = 0 by omega]

theorem write_append (s : BinaryStream) (a b : List UInt8) :
    (s.write a).write b = s.write (a ++ b) := by
  by_cases ha : a = []
  · simp [ha]
  by_cases hb : b = []
  · simp [hb]
  have hab : a ++ b ≠ [] := by simp [ha]
  simp only [write, ha, hb, hab, if_false]
  have hP : s.pos ≤ (s.buf ++ List.replicate (s.pos - s.buf.length) 0).length := by simp; omega
  generalize s.buf ++ List.replicate (s.pos - s.buf.length) 0 = P at hP ⊢
  have hl :
      (List.take s.pos P ++ a ++ List.drop (s.pos + a.length) P).length ≥ s.pos + a.length := by
    simp; omega
  simp only [show s.pos + a.length -
      (List.take s.pos P ++ a ++ List.drop (s.pos + a.length) P).length = 0 by omega,
    List.replicate_zero, List.append_nil, List.length_append]
  congr 1
  · rw [List.take_append_eq_append_take, List.take_append_eq_append_take]
    simp [List.take_of_length_le, List.drop_append_eq_append_drop, List.drop_drop, hP,
      Nat.add_assoc, Nat.add_comm b.length]
    rw [List.drop_eq_nil_of_le (by simp), List.drop_eq_nil_of_le (by simp), List.nil_append,
      List.nil_append]
  · omega

/-! ## Reserve, fill, patch -/

def reserved (orig : List UInt8) (h : Nat) (body : List UInt8) : BinaryStream :=
  ⟨orig ++ (if body = [] then [] else List.replicate h 0 ++ body), orig.length + h + body.length⟩

theorem seekCur_reserve (orig : List UInt8) (h : Nat) :
    (⟨orig, orig.length⟩ : BinaryStream).seekCur h = reserved orig h [] := by
  simp [seekCur, reserved]

theorem write_reserved (orig : List UInt8) (h : Nat) (body data : List UInt8) :
    (reserved orig h body).write data = reserved orig h (body ++ data) := by
  by_cases hd : data = []
  · simp [hd]
  by_cases hb : body = []
  · subst hb
    rw [write_past_end (by simp [reserved]) hd]
    simp [reserved, hd]
  · rw [write_at_end (by simp [reserved, hb]; omega)]
    simp [reserved, hb, hd, Nat.add_assoc]

theorem patch_reserved (orig : List UInt8) (body hdr : List UInt8) :
    ((reserved orig hdr.length body).seek orig.length).write hdr =
      ⟨orig ++ hdr ++ body, orig.length + hdr.length⟩ := by
  by_cases hb : body = []
  · subst hb
    rw [write_at_end (by simp [reserved])]
    simp [reserved]
  · rw [write_inside (by simp [reserved, hb])]
    simp [reserved, hb, List.take_append_of_le_length, List.drop_append_eq_append_drop]

end BinaryStream

end PyIgnite
