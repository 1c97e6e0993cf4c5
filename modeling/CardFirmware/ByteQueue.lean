import CardFirmware.Bytes

/-! Queues of bytes that grow in small pieces. What a queue holds is its `toList`, and
`toList_append` and `toList_drop` say what the operations make of it. -/

namespace CardFirmware

/-- Bytes in two parts: those that can be looked at in order and, the latest one first, those that
came after them. -/
structure ByteQueue where
  front : Bytes := []
  back : Bytes := []
  size : Nat := 0
  size_eq : size = front.length + back.length := by rfl
  deriving DecidableEq

namespace ByteQueue

def toList (q : ByteQueue) : Bytes :=
  match q.back with
  | [] => q.front
  | b :: rest => q.front ++ (b :: rest).reverse

def append (q : ByteQueue) (data : Bytes) : ByteQueue :=
  ⟨q.front, data.reverseAux q.back, q.size + data.length, by
    simp [q.size_eq, List.reverseAux_eq, Nat.add_comm, Nat.add_left_comm]⟩

theorem toList_eq (q : ByteQueue) : q.toList = q.front ++ q.back.reverse := by
  unfold toList
  split <;> simp [*]

@[simp] theorem length_toList (q : ByteQueue) : q.toList.length = q.size := by
  rw [toList_eq, List.length_append, List.length_reverse, q.size_eq]

def drop (n : Nat) (q : ByteQueue) : ByteQueue :=
  ⟨q.toList.drop n, [], q.size - n, by simp⟩

@[simp] theorem toList_append (q : ByteQueue) (data : Bytes) :
    (q.append data).toList = q.toList ++ data := by
  simp [toList_eq, append, List.reverseAux_eq]

@[simp] theorem toList_drop (n : Nat) (q : ByteQueue) :
    (q.drop n).toList = q.toList.drop n := rfl

end ByteQueue

end CardFirmware
