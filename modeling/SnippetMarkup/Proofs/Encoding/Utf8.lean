import Mathlib
import SnippetMarkup.Encoding.Utf8

/-!
# UTF-8 read and written

Bytes can be decoded exactly if they are the encoding of a text, and the text is the only one.  The
same holds of bytes that are taken block by block: a character that a block cuts is left over, and
is put in front of the next one.
-/

namespace SnippetMarkup.Utf8

/-! ## The bytes that follow -/

/-- The first of the bytes is in a range, and the others are such as continue any character. -/
inductive Continue : Nat → Nat → Bytes → Prop
  | nil (low high : Nat) : Continue low high []
  | cons {low high : Nat} {byte : UInt8} {rest : Bytes} (least : low ≤ byte.toNat)
      (most : byte.toNat ≤ high) (continues : Continue 0x80 0xBF rest) :
      Continue low high (byte :: rest)

/-- The code point that a first byte and those that follow it contribute to. -/
def contribute (value : Nat) (tail : Bytes) : Nat :=
  tail.foldl (fun value byte => 64 * value + (byte.toNat - 0x80)) value

variable {low high value read : Nat}

theorem readFollowing_cons {byte : UInt8} (least : low ≤ byte.toNat) (most : byte.toNat ≤ high)
    (following : Nat) (rest : Bytes) :
    readFollowing low high value read (following + 1) (byte :: rest) =
      readFollowing 0x80 0xBF (64 * value + (byte.toNat - 0x80)) (read + 1) following rest := by
  rw [readFollowing]
  exact if_neg (by omega)

theorem readFollowing_append {tail : Bytes} (continues : Continue low high tail) (rest : Bytes) :
    readFollowing low high value read tail.length (tail ++ rest) =
      .code (contribute value tail) (read + tail.length) := by
  induction tail generalizing low high value read with
  | nil => rfl
  | cons byte tail ih =>
    obtain _ | ⟨least, most, continues⟩ := continues
    rw [List.length_cons, List.cons_append, readFollowing_cons least most, ih continues, contribute,
      contribute, List.foldl_cons, Nat.add_assoc, Nat.add_comm 1]

/-- Without some of the bytes that follow, a character is cut. -/
theorem readFollowing_cut {front missing : Bytes} (continues : Continue low high (front ++ missing))
    (some : missing ≠ []) :
    readFollowing low high value read (front ++ missing).length front = .cut := by
  induction front generalizing low high value read with
  | nil =>
    obtain ⟨byte, missing, rfl⟩ := List.exists_cons_of_ne_nil some
    rfl
  | cons byte front ih =>
    obtain _ | ⟨least, most, continues⟩ := continues
    rw [List.cons_append, List.length_cons, readFollowing_cons least most, ih continues]

theorem of_readFollowing {following total n : Nat} {bytes : Bytes}
    (found : readFollowing low high value read following bytes = .code n total) :
    total = read + following ∧ following ≤ bytes.length ∧
      Continue low high (bytes.take following) ∧ n = contribute value (bytes.take following) := by
  induction following generalizing low high value read bytes with
  | zero =>
    obtain ⟨rfl, rfl⟩ := Unit.code.inj found
    exact ⟨rfl, Nat.zero_le _, .nil low high, rfl⟩
  | succ following ih =>
    cases bytes with
    | nil => simp [readFollowing] at found
    | cons byte bytes =>
      rw [readFollowing] at found
      split at found
      · contradiction
      · next inside =>
        obtain ⟨total, enough, continues, code⟩ := ih found
        refine ⟨by omega, Nat.succ_le_succ enough, .cons (by omega) (by omega) continues, ?_⟩
        rw [List.take_succ_cons, contribute, List.foldl_cons, ← contribute]
        exact code

/-! ## Characters -/

theorem toNat_byte {n : Nat} (small : n < 0x100) : (UInt8.ofNat n).toNat = n := by
  rw [UInt8.toNat_ofNat', Nat.mod_eq_of_lt small]

theorem lead?_two {first : UInt8} (least : 0xC2 ≤ first.toNat) (most : first.toNat < 0xE0) :
    lead? first = some (1, 0x80, 0xBF, first.toNat - 0xC0) := by
  rw [lead?]
  rw [if_neg (by omega), if_pos most]

theorem lead?_three {first : UInt8} (least : 0xE0 ≤ first.toNat) (most : first.toNat < 0xF0) :
    lead? first = some (2, if first.toNat = 0xE0 then 0xA0 else 0x80,
      if first.toNat = 0xED then 0x9F else 0xBF, first.toNat - 0xE0) := by
  rw [lead?]
  rw [if_neg (by omega), if_neg (by omega), if_pos most]

theorem lead?_four {first : UInt8} (least : 0xF0 ≤ first.toNat) (most : first.toNat < 0xF5) :
    lead? first = some (3, if first.toNat = 0xF0 then 0x90 else 0x80,
      if first.toNat = 0xF4 then 0x8F else 0xBF, first.toNat - 0xF0) := by
  rw [lead?]
  rw [if_neg (by omega), if_neg (by omega), if_neg (by omega), if_pos most]

/-- A character takes one byte below 128, or a first byte that says what follows. -/
theorem encodeChar_cases (c : Char) :
    (c.toNat < 0x80 ∧ String.utf8EncodeChar c = [UInt8.ofNat c.toNat]) ∨
      ∃ first tail low high value, String.utf8EncodeChar c = first :: tail ∧ 0x80 ≤ first.toNat ∧
        lead? first = some (tail.length, low, high, value) ∧ Continue low high tail ∧
        contribute value tail = c.toNat := by
  have valid : c.toNat < 0xD800 ∨ 0xDFFF < c.toNat ∧ c.toNat < 0x110000 := c.valid
  rw [String.utf8EncodeChar]
  rw [show c.val.toNat = c.toNat from rfl]
  generalize c.toNat = n at *
  -- By the number of bytes; what they contribute is the number of the character in base 64.
  split_ifs with one two three
  · exact .inl ⟨by omega, rfl⟩
  · have first : (UInt8.ofNat (n / 64 % 32 + 192)).toNat = n / 64 % 32 + 192 :=
      toNat_byte (by omega)
    have second : (UInt8.ofNat (n % 64 + 128)).toNat = n % 64 + 128 := toNat_byte (by omega)
    refine .inr ⟨_, _, _, _, _, rfl, by omega, lead?_two (by omega) (by omega), ?_, ?_⟩
    · exact .cons (by omega) (by omega) (.nil _ _)
    · simp only [contribute, List.foldl_cons, List.foldl_nil, first, second]
      omega
  · have first : (UInt8.ofNat (n / 4096 % 16 + 224)).toNat = n / 4096 % 16 + 224 :=
      toNat_byte (by omega)
    have second : (UInt8.ofNat (n / 64 % 64 + 128)).toNat = n / 64 % 64 + 128 :=
      toNat_byte (by omega)
    have third : (UInt8.ofNat (n % 64 + 128)).toNat = n % 64 + 128 := toNat_byte (by omega)
    refine .inr ⟨_, _, _, _, _, rfl, by omega, lead?_three (by omega) (by omega), ?_, ?_⟩
    · refine .cons ?_ ?_ (.cons (by omega) (by omega) (.nil _ _))
      · split_ifs <;> omega
      · split_ifs <;> omega
    · simp only [contribute, List.foldl_cons, List.foldl_nil, first, second, third]
      omega
  · have first : (UInt8.ofNat (n / 262144 % 8 + 240)).toNat = n / 262144 % 8 + 240 :=
      toNat_byte (by omega)
    have second : (UInt8.ofNat (n / 4096 % 64 + 128)).toNat = n / 4096 % 64 + 128 :=
      toNat_byte (by omega)
    have third : (UInt8.ofNat (n / 64 % 64 + 128)).toNat = n / 64 % 64 + 128 :=
      toNat_byte (by omega)
    have fourth : (UInt8.ofNat (n % 64 + 128)).toNat = n % 64 + 128 := toNat_byte (by omega)
    refine .inr ⟨_, _, _, _, _, rfl, by omega, lead?_four (by omega) (by omega), ?_, ?_⟩
    · refine .cons ?_ ?_ (.cons (by omega) (by omega) (.cons (by omega) (by omega) (.nil _ _)))
      · split_ifs <;> omega
      · split_ifs <;> omega
    · simp only [contribute, List.foldl_cons, List.foldl_nil, first, second, third, fourth]
      omega

theorem readUnit_append {c : Char} {first : UInt8} {tail : Bytes}
    (encoded : String.utf8EncodeChar c = first :: tail) (rest : Bytes) :
    readUnit first (tail ++ rest) = .code c.toNat tail.length := by
  rcases encodeChar_cases c with ⟨small, single⟩ | ⟨_, _, low, high, value, shape, large, lead,
    continues, code⟩
  · obtain ⟨rfl, rfl⟩ := List.cons.inj (encoded.symm.trans single)
    rw [readUnit, toNat_byte (by omega), if_pos small]
    rfl
  · obtain ⟨rfl, rfl⟩ := List.cons.inj (encoded.symm.trans shape)
    rw [readUnit, if_neg (by omega), lead]
    dsimp only
    rw [readFollowing_append continues, code, Nat.zero_add]

theorem readUnit_cut {c : Char} {first : UInt8} {front missing : Bytes}
    (encoded : String.utf8EncodeChar c = first :: (front ++ missing)) (some : missing ≠ []) :
    readUnit first front = .cut := by
  rcases encodeChar_cases c with ⟨-, single⟩ | ⟨_, _, low, high, value, shape, large, lead,
    continues, -⟩
  · have nothing := (List.cons.inj (encoded.symm.trans single)).2
    exact (some (List.append_eq_nil_iff.1 nothing).2).elim
  · obtain ⟨rfl, rfl⟩ := List.cons.inj (encoded.symm.trans shape)
    rw [readUnit, if_neg (by omega), lead]
    exact readFollowing_cut continues some

theorem toNat_ofNat_of_valid {n : Nat} (valid : n.isValidChar) : (Char.ofNat n).toNat = n := by
  rw [Char.toNat_ofNat, if_pos valid]

theorem byte_eq {n : Nat} {byte : UInt8} (same : n = byte.toNat) : UInt8.ofNat n = byte := by
  rw [same, UInt8.ofNat_toNat]

theorem lead?_range {first : UInt8} {found : Nat × Nat × Nat × Nat}
    (lead : lead? first = some found) : 0xC2 ≤ first.toNat ∧ first.toNat < 0xF5 := by
  rw [lead?] at lead
  by_contra outside
  split_ifs at lead <;> omega

theorem encodeChar_two {first : UInt8} {tail : Bytes} (least : 0xC2 ≤ first.toNat)
    (most : first.toNat < 0xE0) (length : tail.length = 1) (continues : Continue 0x80 0xBF tail) :
    String.utf8EncodeChar (Char.ofNat (contribute (first.toNat - 0xC0) tail)) = first :: tail := by
  obtain ⟨second, rfl⟩ := List.length_eq_one_iff.1 length
  obtain _ | ⟨secondLeast, secondMost, -⟩ := continues
  simp only [contribute, List.foldl_cons, List.foldl_nil]
  generalize code : 64 * (first.toNat - 0xC0) + (second.toNat - 0x80) = n
  have same : (Char.ofNat n).val.toNat = n := toNat_ofNat_of_valid (.inl (by omega))
  rw [String.utf8EncodeChar, same, if_neg (by omega), if_pos (by omega)]
  simp only [List.cons.injEq, and_true]
  exact ⟨byte_eq (by omega), byte_eq (by omega)⟩

/-- The first of the bytes that follow is in a narrower range behind some first bytes, so that no
shorter encoding and no surrogate is written. -/
theorem encodeChar_three {first : UInt8} {tail : Bytes} (least : 0xE0 ≤ first.toNat)
    (most : first.toNat < 0xF0) (length : tail.length = 2)
    (continues : Continue (if first.toNat = 0xE0 then 0xA0 else 0x80)
      (if first.toNat = 0xED then 0x9F else 0xBF) tail) :
    String.utf8EncodeChar (Char.ofNat (contribute (first.toNat - 0xE0) tail)) = first :: tail := by
  obtain ⟨second, third, rfl⟩ := List.length_eq_two.1 length
  obtain _ | ⟨secondLeast, secondMost, _ | ⟨thirdLeast, thirdMost, -⟩⟩ := continues
  simp only [contribute, List.foldl_cons, List.foldl_nil]
  generalize code : 64 * (64 * (first.toNat - 0xE0) + (second.toNat - 0x80)) +
    (third.toNat - 0x80) = n
  have range : 0x800 ≤ n ∧ n < 0x10000 ∧ (n < 0xD800 ∨ 0xDFFF < n) := by
    split_ifs at secondLeast secondMost <;> omega
  have same : (Char.ofNat n).val.toNat = n := toNat_ofNat_of_valid (by omega)
  have secondRange : 0x80 ≤ second.toNat ∧ second.toNat ≤ 0xBF := by
    split_ifs at secondLeast secondMost <;> omega
  rw [String.utf8EncodeChar, same, if_neg (by omega), if_neg (by omega), if_pos (by omega)]
  simp only [List.cons.injEq, and_true]
  exact ⟨byte_eq (by omega), byte_eq (by omega), byte_eq (by omega)⟩

theorem encodeChar_four {first : UInt8} {tail : Bytes} (least : 0xF0 ≤ first.toNat)
    (most : first.toNat < 0xF5) (length : tail.length = 3)
    (continues : Continue (if first.toNat = 0xF0 then 0x90 else 0x80)
      (if first.toNat = 0xF4 then 0x8F else 0xBF) tail) :
    String.utf8EncodeChar (Char.ofNat (contribute (first.toNat - 0xF0) tail)) = first :: tail := by
  obtain ⟨second, third, fourth, rfl⟩ := List.length_eq_three.1 length
  obtain _ | ⟨secondLeast, secondMost, _ | ⟨thirdLeast, thirdMost,
    _ | ⟨fourthLeast, fourthMost, -⟩⟩⟩ := continues
  simp only [contribute, List.foldl_cons, List.foldl_nil]
  generalize code : 64 * (64 * (64 * (first.toNat - 0xF0) + (second.toNat - 0x80)) +
    (third.toNat - 0x80)) + (fourth.toNat - 0x80) = n
  have range : 0x10000 ≤ n ∧ n < 0x110000 := by
    split_ifs at secondLeast secondMost <;> omega
  have same : (Char.ofNat n).val.toNat = n := toNat_ofNat_of_valid (by omega)
  have secondRange : 0x80 ≤ second.toNat ∧ second.toNat ≤ 0xBF := by
    split_ifs at secondLeast secondMost <;> omega
  rw [String.utf8EncodeChar, same, if_neg (by omega), if_neg (by omega), if_neg (by omega)]
  simp only [List.cons.injEq, and_true]
  exact ⟨byte_eq (by omega), byte_eq (by omega), byte_eq (by omega), byte_eq (by omega)⟩

/-- A first byte and those that may follow it are the encoding of the character that they
contribute to. -/
theorem encodeChar_of_lead? {first : UInt8} {tail : Bytes} {following : Nat}
    (lead : lead? first = some (following, low, high, value)) (length : tail.length = following)
    (continues : Continue low high tail) :
    String.utf8EncodeChar (Char.ofNat (contribute value tail)) = first :: tail := by
  obtain ⟨least, most⟩ := lead?_range lead
  by_cases two : first.toNat < 0xE0
  · rw [lead?_two least two] at lead
    obtain ⟨rfl, rfl, rfl, rfl⟩ := lead
    exact encodeChar_two least two length continues
  by_cases three : first.toNat < 0xF0
  · rw [lead?_three (by omega) three] at lead
    obtain ⟨rfl, rfl, rfl, rfl⟩ := lead
    exact encodeChar_three (by omega) three length continues
  · rw [lead?_four (by omega) most] at lead
    obtain ⟨rfl, rfl, rfl, rfl⟩ := lead
    exact encodeChar_four (by omega) most length continues

/-- What is read as a character is its encoding. -/
theorem of_readUnit {first : UInt8} {rest : Bytes} {n following : Nat}
    (found : readUnit first rest = .code n following) :
    following ≤ rest.length ∧
      String.utf8EncodeChar (Char.ofNat n) = first :: rest.take following := by
  rw [readUnit] at found
  split at found
  · next small =>
    obtain ⟨rfl, rfl⟩ := Unit.code.inj found
    refine ⟨Nat.zero_le _, ?_⟩
    have code : (Char.ofNat first.toNat).val.toNat = first.toNat :=
      toNat_ofNat_of_valid (.inl (by omega))
    rw [String.utf8EncodeChar, code, if_pos (by omega), UInt8.ofNat_toNat]
    rfl
  · next large =>
    split at found
    · contradiction
    · next following' low high value lead =>
      obtain ⟨total, enough, continues, code⟩ := of_readFollowing found
      obtain rfl : following = following' := by omega
      refine ⟨enough, ?_⟩
      rw [code]
      exact encodeChar_of_lead? lead (List.length_take_of_le enough) continues

/-! ## Texts -/

@[simp] theorem encode_nil : encode [] = [] := rfl

@[simp] theorem encode_append (text more : Text) :
    encode (text ++ more) = encode text ++ encode more :=
  List.flatMap_append

theorem encode_cons (c : Char) (text : Text) :
    encode (c :: text) = String.utf8EncodeChar c ++ encode text := rfl

theorem exists_encodeChar_eq_cons (c : Char) :
    ∃ first tail, String.utf8EncodeChar c = first :: tail := by
  rcases encodeChar_cases c with ⟨-, single⟩ | ⟨first, tail, _, _, _, shape, -⟩
  · exact ⟨_, _, single⟩
  · exact ⟨first, tail, shape⟩

/-- What is decoded is the encoding of its text, up to what is left over. -/
theorem of_decodeFrom {place : Nat} {final : Bool} {bytes left : Bytes} {text : Text}
    (decoded : decodeFrom place final bytes = .ok (text, left)) :
    bytes = encode text ++ left ∧ (final = true → left = []) := by
  induction place, bytes using decodeFrom.induct final generalizing text left with
  | case1 place =>
    rw [decodeFrom] at decoded
    cases decoded
    exact ⟨rfl, fun _ => rfl⟩
  | case2 place first rest n following found ih =>
    rw [decodeFrom, found] at decoded
    dsimp only at decoded
    cases decodes : decodeFrom (place + following + 1) final (rest.drop following) with
    | error error =>
      rw [decodes] at decoded
      cases decoded
    | ok behind =>
      rw [decodes] at decoded
      cases decoded
      obtain ⟨split, done⟩ := ih decodes
      refine ⟨?_, done⟩
      rw [encode_cons, (of_readUnit found).2, List.append_assoc, ← split, List.cons_append,
        List.take_append_drop]
  | case3 place first rest bad | case4 place first rest good bad =>
    rw [decodeFrom, bad] at decoded
    cases decoded
  | case5 place first rest cut done =>
    rw [decodeFrom, cut, done] at decoded
    cases decoded
  | case6 place first rest cut goesOn =>
    rw [decodeFrom, cut] at decoded
    dsimp only at decoded
    rw [if_neg goesOn] at decoded
    cases decoded
    exact ⟨rfl, fun done => (goesOn done).elim⟩

theorem encode_eq_nil_iff {text : Text} : encode text = [] ↔ text = [] := by
  cases text with
  | nil => simp
  | cons c text =>
    obtain ⟨first, tail, shape⟩ := exists_encodeChar_eq_cons c
    simp [encode_cons, shape]

/-- If some bytes are the beginning of the encoding of a text, they are decoded up to the character
that is cut by their end. -/
theorem decodeFrom_of_append {text : Text} {bytes behind : Bytes}
    (encoded : bytes ++ behind = encode text) (final : Bool) (whole : final = true → behind = [])
    (place : Nat) :
    ∃ front back left, text = front ++ back ∧ left ++ behind = encode back ∧
      decodeFrom place final bytes = .ok (front, left) := by
  induction text generalizing bytes place with
  | nil =>
    obtain ⟨rfl, rfl⟩ := List.append_eq_nil_iff.1 encoded
    exact ⟨[], [], [], rfl, rfl, by rw [decodeFrom]⟩
  | cons c text ih =>
    obtain ⟨first, tail, shape⟩ := exists_encodeChar_eq_cons c
    rw [encode_cons, shape] at encoded
    have later (rest : Bytes) (cut : bytes = first :: tail ++ rest)
        (encodes : encode text = rest ++ behind) :
        ∃ front back left, c :: text = front ++ back ∧ left ++ behind = encode back ∧
          decodeFrom place final bytes = .ok (front, left) := by
      obtain ⟨front, back, left, rfl, encodesBack, decoded⟩ :=
        ih encodes.symm (place + tail.length + 1)
      refine ⟨c :: front, back, left, rfl, encodesBack, ?_⟩
      rw [cut, List.cons_append, decodeFrom, readUnit_append shape]
      dsimp only
      rw [List.drop_left, decoded, Char.ofNat_toNat]
      rfl
    -- Either the bytes end inside of the first character, or it is there as a whole.
    rcases List.append_eq_append_iff.1 encoded with ⟨missing, split, rest⟩ | ⟨rest, cut, encodes⟩
    · by_cases none : missing = []
      · subst none
        exact later [] (by simpa using split.symm) rest.symm
      · cases bytes with
        | nil =>
          exact ⟨[], c :: text, [], rfl, by rw [encode_cons, shape, ← encoded], by rw [decodeFrom]⟩
        | cons byte front =>
          obtain ⟨rfl, rfl⟩ := List.cons.inj split
          have goesOn : final = false := by
            by_contra done
            have nothing := whole (Bool.eq_true_of_not_eq_false done)
            rw [rest] at nothing
            exact none (List.append_eq_nil_iff.1 nothing).1
          refine ⟨[], c :: text, first :: front, rfl, by rw [encode_cons, shape, encoded], ?_⟩
          rw [decodeFrom, readUnit_cut shape none, goesOn]
          rfl
    · exact later rest cut encodes

theorem decode_eq_ok_iff {bytes : Bytes} {text : Text} :
    decode bytes = .ok text ↔ bytes = encode text := by
  constructor
  · intro decoded
    rw [decode] at decoded
    cases decodes : decodeFrom 0 true bytes with
    | error error =>
      rw [decodes] at decoded
      cases decoded
    | ok found =>
      rw [decodes] at decoded
      cases decoded
      obtain ⟨split, done⟩ := of_decodeFrom decodes
      rw [split, done rfl, List.append_nil]
  · intro encoded
    rw [← List.append_nil bytes] at encoded
    obtain ⟨front, back, left, rfl, encodes, decoded⟩ :=
      decodeFrom_of_append encoded true (fun _ => rfl) 0
    rw [(of_decodeFrom decoded).2 rfl] at encodes decoded
    obtain rfl := encode_eq_nil_iff.1 encodes.symm
    rw [decode, decoded, List.append_nil]
    rfl

theorem decodeBlocks_nil_eq_ok_iff {fuel : Nat} {left : Bytes} {text : Text} :
    decodeBlocks left (fuel + 1) [] = .ok text ↔ left ++ [] = encode text := by
  rw [List.append_nil]
  exact decode_eq_ok_iff

theorem decodeBlocks_succ_eq_ok_iff {fuel : Nat} {left bytes : Bytes} {text : Text}
    (some : bytes ≠ []) :
    decodeBlocks left (fuel + 1) bytes = .ok text ↔
      ∃ front leftover back,
        decodeFrom 0 false (left ++ bytes.take blockSize) = .ok (front, leftover) ∧
        decodeBlocks leftover fuel (bytes.drop blockSize) = .ok back ∧ text = front ++ back := by
  rw [decodeBlocks]
  · cases decodes : decodeFrom 0 false (left ++ bytes.take blockSize) with
    | error error => simp [bind, Except.bind]
    | ok found =>
      obtain ⟨front, leftover⟩ := found
      cases later : decodeBlocks leftover fuel (bytes.drop blockSize) with
      | error error => simp [bind, Except.bind, later]
      | ok back => simp [bind, Except.bind, later, pure, Except.pure, eq_comm]
  · exact some

/-- Block by block, the bytes that were left over and those that are still to come are decoded like
all of them at once. -/
theorem decodeBlocks_eq_ok_iff {rounds : Nat} {left bytes : Bytes} {text : Text}
    (enough : bytes.length ≤ blockSize * rounds) :
    decodeBlocks left (rounds + 1) bytes = .ok text ↔ left ++ bytes = encode text := by
  induction rounds generalizing left bytes text with
  | zero =>
    obtain rfl : bytes = [] := List.eq_nil_of_length_eq_zero (by omega)
    exact decodeBlocks_nil_eq_ok_iff
  | succ rounds ih =>
    by_cases done : bytes = []
    · subst done
      exact decodeBlocks_nil_eq_ok_iff
    have split : left ++ bytes = (left ++ bytes.take blockSize) ++ bytes.drop blockSize := by
      rw [List.append_assoc, List.take_append_drop]
    have fewer : (bytes.drop blockSize).length ≤ blockSize * rounds := by
      rw [List.length_drop]
      rw [Nat.mul_succ] at enough
      omega
    rw [decodeBlocks_succ_eq_ok_iff done, split]
    -- What the first block leaves over goes in front of the next one, on both sides.
    constructor
    · rintro ⟨front, leftover, back, decoded, later, rfl⟩
      rw [(of_decodeFrom decoded).1, List.append_assoc, (ih fewer).1 later, encode_append]
    · intro encoded
      obtain ⟨front, back, leftover, rfl, encodes, decoded⟩ :=
        decodeFrom_of_append encoded false (fun final => by contradiction) 0
      exact ⟨front, leftover, back, decoded, (ih fewer).2 encodes, rfl⟩

/-- A stream of bytes can be read exactly if it is the encoding of a text. -/
theorem decodeStream_eq_ok_iff {bytes : Bytes} {text : Text} :
    decodeStream bytes = .ok text ↔ bytes = encode text := by
  rw [decodeStream, decodeBlocks_eq_ok_iff, List.nil_append]
  have division := Nat.div_add_mod bytes.length blockSize
  have remainder := Nat.mod_lt bytes.length (show 0 < blockSize by decide)
  rw [Nat.mul_succ]
  omega

end SnippetMarkup.Utf8
