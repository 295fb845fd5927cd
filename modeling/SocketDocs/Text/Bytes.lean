/-!
# Byte positions

Lengths and cuts counted in the bytes of the UTF-8 form of a text.
-/

namespace SocketDocs.Text

def byteLength : List Char → Nat
  | [] => 0
  | c :: rest => c.utf8Size + byteLength rest

/-- Drops the characters that fill exactly the first `count` bytes; `none` if that would cut a
character or go past the end. -/
def dropBytes? (count : Nat) : List Char → Option (List Char)
  | [] => if count = 0 then some [] else none
  | c :: rest =>
    if count = 0 then some (c :: rest)
    else if c.utf8Size ≤ count then dropBytes? (count - c.utf8Size) rest
    else none

theorem dropBytes?_zero (cs : List Char) : dropBytes? 0 cs = some cs := by
  cases cs <;> simp [dropBytes?]

theorem dropBytes?_append (front back : List Char) :
    dropBytes? (byteLength front) (front ++ back) = some back := by
  induction front with
  | nil => exact dropBytes?_zero back
  | cons c rest ih =>
    have hpos : 0 < c.utf8Size := Char.utf8Size_pos c
    have hlen : byteLength (c :: rest) = c.utf8Size + byteLength rest := rfl
    rw [hlen, List.cons_append, dropBytes?, if_neg (by omega), if_pos (by omega),
      Nat.add_sub_cancel_left, ih]

theorem dropBytes?_takeWhile (p : Char → Bool) (cs : List Char) :
    dropBytes? (byteLength (cs.takeWhile p)) cs = some (cs.dropWhile p) := by
  have happend := dropBytes?_append (cs.takeWhile p) (cs.dropWhile p)
  rwa [List.takeWhile_append_dropWhile] at happend

end SocketDocs.Text
