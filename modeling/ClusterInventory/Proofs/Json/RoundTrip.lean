import ClusterInventory.Proofs.Bytes.RoundTrip
import ClusterInventory.Proofs.Json.Texts

/-!
# Documents read back

A document without floats, whose whole numbers fit in 64 bits, is read back from its text
(`parse?_text`), and from the bytes of that (`parseBytes?_text`). The reader takes each part of the
document off the front of the text and leaves what follows it (`readValue_write`); its fuel is
enough because every part has at least one character.
-/

namespace ClusterInventory.Json

open Text (decimal valueFrom digitValue)

variable {cs rest : List Char}

/-! ## Documents whose text says all -/

mutual

/-- The document has no floats, its whole numbers fit in 64 bits, and every part stands for
something. -/
def isExact : Json → Bool
  | .int n => -9223372036854775808 ≤ n && n ≤ 18446744073709551615
  | .float _ => false
  | .arr items => itemsExact items
  | .obj members => membersExact members
  | .unreadable => false
  | _ => true

def itemsExact : List Json → Bool
  | [] => true
  | j :: rest => j.isExact && itemsExact rest

def membersExact : List (String × Json) → Bool
  | [] => true
  | (_, v) :: rest => v.isExact && membersExact rest

end

/-! ## Numbers -/

/-- What may follow a document within a text: nothing, or a mark that no number has. -/
def endsNumber : List Char → Bool
  | [] => true
  | c :: _ => c == ',' || c == ']' || c == '\x7d'

theorem isDigit_of_endsNumber {c : Char} (h : endsNumber (c :: cs) = true) : c.isDigit = false := by
  simp only [endsNumber, Bool.or_eq_true, beq_iff_eq] at h
  rcases h with (rfl | rfl) | rfl <;> decide

theorem spanDigits_append {ds : List Char} (hds : ∀ c ∈ ds, c.isDigit = true)
    (hrest : endsNumber rest = true) : spanDigits (ds ++ rest) = (ds, rest) := by
  have hstop : rest.takeWhile Char.isDigit = [] ∧ rest.dropWhile Char.isDigit = rest := by
    cases rest with
    | nil => exact ⟨rfl, rfl⟩
    | cons c cs => simp [isDigit_of_endsNumber hrest]
  rw [spanDigits, List.takeWhile_append_of_pos hds, List.dropWhile_append_of_pos hds, hstop.1,
    hstop.2, List.append_nil]

theorem le_valueFrom (n : Nat) (ds : List Char) : n ≤ valueFrom n ds := by
  induction ds generalizing n with
  | nil => exact Nat.le_refl n
  | cons c ds ih =>
    have := ih (10 * n + digitValue c)
    simp only [valueFrom, List.foldl_cons] at this ⊢
    omega

/-- All digits of a number that fits are gathered. -/
theorem gather_of_lt {n : Nat} {ds : List Char} (h : valueFrom n ds < UInt64.size) :
    gather n ds = (valueFrom n ds, 0) := by
  induction ds generalizing n with
  | nil => rfl
  | cons c ds ih =>
    have hnext : valueFrom (10 * n + digitValue c) ds < UInt64.size := h
    have hfits := Nat.lt_of_le_of_lt (le_valueFrom _ ds) hnext
    rw [gather]
    simp only [hfits, if_true, ih hnext]
    rfl

/-- No zero stands in front of a number. -/
theorem head?_decimal_ne_zero {n : Nat} (h : 0 < n) : (decimal n).head? ≠ some '0' := by
  induction n using Nat.strongRecOn with
  | ind n ih =>
    rw [decimal]
    split
    · next hlt =>
      have : ∀ n, n < 10 → 0 < n → Text.digitChar n ≠ '0' := by decide
      simp [this n hlt h]
    · have hfirst := ih (n / 10) (by omega) (by omega)
      cases hds : decimal (n / 10) with
      | nil => exact absurd hds (Text.decimal_ne_nil _)
      | cons d ds => rwa [hds] at hfirst

theorem readNumber_decimal (negative : Bool) {n : Nat} (hn : n < UInt64.size)
    (hsign : negative = true → 0 < n ∧ n ≤ 9223372036854775808)
    (hrest : endsNumber rest = true) :
    readNumber negative (decimal n ++ rest) =
      some (.int (if negative then -(n : Int) else n), rest) := by
  have hspan := spanDigits_append (fun c => Text.isDigit_of_mem_decimal (n := n)) hrest
  have hgather : gather 0 (decimal n) = (n, 0) := by
    rw [gather_of_lt (by rwa [Text.valueFrom_decimal]), Text.valueFrom_decimal]
  have hshape : ((decimal n).isEmpty ||
      ((decimal n).head? == some '0' && (decimal n).length != 1)) = false := by
    have hempty : (decimal n).isEmpty = false := by
      rw [List.isEmpty_eq_false_iff]
      exact Text.decimal_ne_nil n
    rcases Nat.eq_zero_or_pos n with rfl | hpos
    · decide +kernel
    · simp [hempty, head?_decimal_ne_zero hpos]
  rw [readNumber, hspan]
  simp only [hshape, hgather, Bool.false_eq_true, if_false]
  -- neither a point nor an exponent follows
  split
  · cases hrest
  · cases hrest
  · cases hrest
  · cases negative with
    | false => simp
    | true => simp [hsign rfl]

theorem exists_decimal (n : Nat) : ∃ d ds, decimal n = d :: ds ∧ d.isDigit = true := by
  cases h : decimal n with
  | nil => exact absurd h (Text.decimal_ne_nil n)
  | cons d ds => exact ⟨d, ds, rfl, Text.isDigit_of_mem_decimal (n := n) (h ▸ List.mem_cons_self)⟩

/-! ## The shape of what is written -/

/-- The characters with which a document may start. -/
def isOpening (c : Char) : Bool :=
  c.isDigit || ['n', 't', 'f', '"', '[', '\x7b', '-'].contains c

theorem exists_write (j : Json) (hj : j.isExact = true) (rest : List Char) :
    ∃ c cs, j.write rest = c :: cs ∧ isOpening c = true := by
  cases j with
  | null => exact ⟨_, _, rfl, rfl⟩
  | bool b => cases b <;> exact ⟨_, _, rfl, rfl⟩
  | int n =>
    cases n with
    | ofNat n =>
      obtain ⟨d, ds, hds, hd⟩ := exists_decimal n
      refine ⟨d, ds ++ rest, ?_, ?_⟩
      · simp only [write, Text.decimalInt, hds, List.cons_append]
      · simp only [isOpening, hd, Bool.true_or]
    | negSucc n => exact ⟨_, _, rfl, rfl⟩
  | float x => cases hj
  | str s => exact ⟨_, _, rfl, rfl⟩
  | arr items => cases items <;> exact ⟨_, _, rfl, rfl⟩
  | obj members => cases members <;> exact ⟨_, _, rfl, rfl⟩
  | unreadable => cases hj

theorem skipBlanks_of_isOpening {c : Char} (h : isOpening c = true) :
    skipBlanks (c :: cs) = c :: cs := by
  rw [skipBlanks, if_neg]
  intro hc
  simp only [Bool.or_eq_true, decide_eq_true_eq] at hc
  rcases hc with ((rfl | rfl) | rfl) | rfl <;> exact absurd h (by decide)

theorem length_writeChars (rest cs : List Char) : rest.length < (writeChars rest cs).length := by
  induction cs with
  | nil => simp [writeChars]
  | cons c cs ih =>
    rw [writeChars, List.length_append]
    omega

theorem length_writeString (s : String) (rest : List Char) :
    rest.length + 1 < (writeString s rest).length := by
  rw [writeString, List.length_cons]
  exact Nat.succ_lt_succ (length_writeChars rest s.toList)

mutual

/-- Every part of a document has a character of its own. -/
theorem length_write : ∀ (j : Json) (rest : List Char), j.isExact = true →
    rest.length < (j.write rest).length
  | .null, rest, _ => by simp only [write, List.length_cons]; omega
  | .bool true, rest, _ => by simp only [write, List.length_cons]; omega
  | .bool false, rest, _ => by simp only [write, List.length_cons]; omega
  | .int n, rest, h => by
    obtain ⟨c, cs, hcs, -⟩ := exists_write (.int n) h []
    simp only [write, List.append_nil] at hcs
    simp only [write, hcs, List.length_append, List.length_cons]
    omega
  | .str s, rest, _ => by
    have := length_writeString s rest
    rw [write]
    omega
  | .arr [], rest, _ => by simp only [write, List.length_cons]; omega
  | .arr (item :: items), rest, h => by
    simp only [isExact, itemsExact, Bool.and_eq_true] at h
    have hitem := length_write item (writeItems items rest) h.1
    have hitems := length_writeItems items rest h.2
    rw [write, List.length_cons]
    omega
  | .obj [], rest, _ => by simp only [write, List.length_cons]; omega
  | .obj ((key, v) :: members), rest, h => by
    simp only [isExact, membersExact, Bool.and_eq_true] at h
    have hkey := length_writeString key (':' :: v.write (writeMembers members rest))
    have hv := length_write v (writeMembers members rest) h.1
    have hmembers := length_writeMembers members rest h.2
    rw [write, List.length_cons]
    simp only [List.length_cons] at hkey
    omega
  | .float x, rest, h => by cases h
  | .unreadable, rest, h => by cases h

theorem length_writeItems : ∀ (items : List Json) (rest : List Char),
    itemsExact items = true → rest.length < (writeItems items rest).length
  | [], rest, _ => by simp only [writeItems, List.length_cons]; omega
  | item :: items, rest, h => by
    simp only [itemsExact, Bool.and_eq_true] at h
    have hitem := length_write item (writeItems items rest) h.1
    have hitems := length_writeItems items rest h.2
    rw [writeItems, List.length_cons]
    omega

theorem length_writeMembers : ∀ (members : List (String × Json)) (rest : List Char),
    membersExact members = true → rest.length < (writeMembers members rest).length
  | [], rest, _ => by simp only [writeMembers, List.length_cons]; omega
  | (key, v) :: members, rest, h => by
    simp only [membersExact, Bool.and_eq_true] at h
    have hkey := length_writeString key (':' :: v.write (writeMembers members rest))
    have hv := length_write v (writeMembers members rest) h.1
    have hmembers := length_writeMembers members rest h.2
    rw [writeMembers, List.length_cons]
    simp only [List.length_cons] at hkey
    omega

end

/-! ## Reading -/

theorem endsNumber_writeItems (items : List Json) (rest : List Char) :
    endsNumber (writeItems items rest) = true := by
  cases items <;> rfl

theorem endsNumber_writeMembers (members : List (String × Json)) (rest : List Char) :
    endsNumber (writeMembers members rest) = true := by
  cases members with
  | nil => rfl
  | cons m members => rfl

theorem readValue_int {n : Int} (fuel : Nat) (h : (Json.int n).isExact = true)
    (hrest : endsNumber rest = true) :
    readValue (fuel + 1) ((Json.int n).write rest) = some (.int n, rest) := by
  simp only [isExact, Bool.and_eq_true, decide_eq_true_eq] at h
  cases n with
  | negSucc n =>
    have hnumber := readNumber_decimal true (n := n + 1)
      (by simp only [UInt64.size]; omega) (fun _ => by omega) hrest
    rw [write, Text.decimalInt, List.cons_append, readValue, skipBlanks_of_isOpening (by rfl)]
    simp only
    rw [hnumber]
    rfl
  | ofNat n =>
    rw [Int.ofNat_eq_natCast] at h
    have hnumber := readNumber_decimal false (n := n)
      (by simp only [UInt64.size]; omega) (fun h => by cases h) hrest
    obtain ⟨d, ds, hds, hd⟩ := exists_decimal n
    rw [write, Text.decimalInt]
    rw [hds, List.cons_append] at hnumber ⊢
    rw [readValue, skipBlanks_of_isOpening (by simp only [isOpening, hd, Bool.true_or])]
    split <;> simp_all

theorem readValue_str (fuel : Nat) (s : String) (rest : List Char) :
    readValue (fuel + 1) ((Json.str s).write rest) = some (.str s, rest) := by
  rw [write, writeString, readValue, skipBlanks_of_isOpening (by rfl)]
  simp only
  rw [readChars_writeChars]
  simp

mutual

/-- A document is read off the front of a text. The fuel counts two steps for each character. -/
theorem readValue_write : ∀ (j : Json) (fuel : Nat) (rest : List Char), j.isExact = true →
    endsNumber rest = true → 2 * (j.write rest).length ≤ fuel + 2 * rest.length + 1 →
    readValue fuel (j.write rest) = some (j, rest)
  | j, 0, rest, h, _, hfuel => by
    have := length_write j rest h
    omega
  | .null, fuel + 1, rest, _, _, _ => by
    rw [write, readValue, skipBlanks_of_isOpening (by rfl)]
    rfl
  | .bool true, fuel + 1, rest, _, _, _ => by
    rw [write, readValue, skipBlanks_of_isOpening (by rfl)]
    rfl
  | .bool false, fuel + 1, rest, _, _, _ => by
    rw [write, readValue, skipBlanks_of_isOpening (by rfl)]
    rfl
  | .int n, fuel + 1, rest, h, hrest, _ => readValue_int fuel h hrest
  | .str s, fuel + 1, rest, _, _, _ => readValue_str fuel s rest
  | .arr [], fuel + 1, rest, _, _, _ => by
    rw [write, readValue, skipBlanks_of_isOpening (by rfl)]
    rfl
  | .arr (item :: items), fuel + 1, rest, h, _, hfuel => by
    simp only [isExact, itemsExact, Bool.and_eq_true] at h
    rw [write, List.length_cons] at hfuel
    have hitems := readItems_write item items fuel [] rest h.1 h.2 (by omega)
    obtain ⟨c, cs, hcs, hc⟩ := exists_write item h.1 (writeItems items rest)
    rw [write, readValue, skipBlanks_of_isOpening (by rfl)]
    simp only
    rw [hcs] at hitems ⊢
    rw [skipBlanks_of_isOpening hc]
    split
    · next heq =>
      cases heq
      cases hc
    · exact hitems
  | .obj [], fuel + 1, rest, _, _, _ => by
    rw [write, readValue, skipBlanks_of_isOpening (by rfl)]
    rfl
  | .obj ((key, v) :: members), fuel + 1, rest, h, _, hfuel => by
    simp only [isExact, membersExact, Bool.and_eq_true] at h
    rw [write, List.length_cons] at hfuel
    have hmembers := readMembers_write key v members fuel [] rest h.1 h.2 (by omega)
    rw [write, readValue, skipBlanks_of_isOpening (by rfl)]
    simp only
    rw [writeString] at hmembers ⊢
    rw [skipBlanks_of_isOpening (by rfl)]
    exact hmembers
  | .float x, fuel + 1, rest, h, _, _ => by cases h
  | .unreadable, fuel + 1, rest, h, _, _ => by cases h

theorem readItems_write : ∀ (item : Json) (items : List Json) (fuel : Nat) (acc : List Json)
    (rest : List Char), item.isExact = true → itemsExact items = true →
    2 * (item.write (writeItems items rest)).length ≤ fuel + 2 * rest.length →
    readItems fuel acc (item.write (writeItems items rest)) =
      some (.arr (acc.reverse ++ item :: items), rest)
  | item, items, 0, acc, rest, h, hs, hfuel => by
    have := length_write item (writeItems items rest) h
    have := length_writeItems items rest hs
    omega
  | item, items, fuel + 1, acc, rest, h, hs, hfuel => by
    have hlonger := length_write item (writeItems items rest) h
    have hlast := length_writeItems items rest hs
    rw [readItems, readValue_write item fuel (writeItems items rest) h
      (endsNumber_writeItems items rest) (by omega)]
    cases items with
    | nil =>
      simp only [writeItems, skipBlanks]
      simp
    | cons next items =>
      simp only [itemsExact, Bool.and_eq_true] at hs
      rw [writeItems] at hfuel hlonger
      rw [List.length_cons] at hlonger
      have hrest := readItems_write next items fuel (item :: acc) rest hs.1 hs.2 (by omega)
      simp only [writeItems, skipBlanks]
      simp [hrest]

theorem readMembers_write : ∀ (key : String) (v : Json) (members : List (String × Json))
    (fuel : Nat) (acc : List (String × Json)) (rest : List Char), v.isExact = true →
    membersExact members = true →
    2 * (writeString key (':' :: v.write (writeMembers members rest))).length ≤
      fuel + 2 * rest.length →
    readMembers fuel true acc (writeString key (':' :: v.write (writeMembers members rest))) =
      some (.obj (acc.reverse ++ (key, v) :: members), rest)
  | key, v, members, 0, acc, rest, h, hs, hfuel => by
    have := length_writeString key (':' :: v.write (writeMembers members rest))
    have := length_write v (writeMembers members rest) h
    have := length_writeMembers members rest hs
    simp only [List.length_cons] at *
    omega
  | key, v, members, fuel + 1, acc, rest, h, hs, hfuel => by
    have hkey := length_writeString key (':' :: v.write (writeMembers members rest))
    have hlonger := length_write v (writeMembers members rest) h
    have hlast := length_writeMembers members rest hs
    simp only [List.length_cons] at hkey
    have hv := readValue_write v fuel (writeMembers members rest) h
      (endsNumber_writeMembers members rest) (by omega)
    rw [writeString, readMembers, skipBlanks_of_isOpening (by rfl)]
    simp only
    rw [readChars_writeChars]
    simp only [skipBlanks, List.reverse_nil, List.nil_append, String.ofList_toList]
    simp only [Char.reduceEq, decide_false, Bool.or_self, Bool.false_eq_true, if_false]
    rw [hv]
    cases members with
    | nil =>
      simp only [writeMembers, skipBlanks]
      simp
    | cons next members =>
      obtain ⟨nextKey, nextV⟩ := next
      simp only [membersExact, Bool.and_eq_true] at hs
      rw [writeMembers] at hfuel hkey hlonger
      rw [List.length_cons] at hlonger
      have hrest := readMembers_write nextKey nextV members fuel ((key, v) :: acc) rest hs.1 hs.2
        (by omega)
      simp only [writeMembers, skipBlanks]
      simp [hrest]

end

/-- The text of a document reads back as the document. -/
theorem parse?_text {j : Json} (h : j.isExact = true) : parse? j.text = some j := by
  have hread := readValue_write j (2 * (j.write []).length + 2) [] h rfl (by omega)
  simp only [parse?, parseChars?, text, String.toList_ofList, hread, skipBlanks,
    List.isEmpty_nil, if_true]

/-- Bytes that are a text throughout spell the document of that text. -/
theorem parseBytes?_of_decode? {bs : List UInt8} {s : String}
    (h : Text.Utf8.decode? bs = some s) : parseBytes? bs = parse? s := by
  rw [Text.Utf8.decode?_eq_some_iff.1 h, parseBytes?, Text.Utf8.decodeWith_bytes, parse?]

theorem parseBytes?_text {j : Json} (h : j.isExact = true) :
    parseBytes? (Text.Utf8.bytes j.text) = some j := by
  rw [parseBytes?_of_decode? (Text.Utf8.decode?_bytes j.text)]
  exact parse?_text h

end ClusterInventory.Json
