import ClusterInventory.Proofs.Text.Trim
import ClusterInventory.Proofs.Time.Reading
import ClusterInventory.Quantity

/-!
# The grammar of quantities

`Quantity.Written` is a quantity as it is written: a sign, digits with at most one point among them,
and a suffix, which is one of sixteen names or an exponent. `parse_iff_written` says that a text is
parsed exactly if it has a written quantity between blanks, and that it has no more than one.
-/

namespace ClusterInventory

namespace Quantity

open Text (isBlank trim trim_append exists_trim valueFrom readInt? readNat?)

/-! ## The grammar -/

/-- A row of ASCII digits. -/
@[ext] structure Digits where
  chars : List Char
  isDigit : ∀ c ∈ chars, c.isDigit = true

def Digits.none : Digits := ⟨[], fun _ h => absurd h List.not_mem_nil⟩

def Digits.one (c : Char) (h : c.isDigit = true) : Digits := ⟨[c], List.forall_mem_singleton.2 h⟩

inductive Sign where
  | plus
  | minus

/-- The sign in front of a number, if it has one. -/
def signText : Option Sign → List Char
  | none => []
  | some .plus => ['+']
  | some .minus => ['-']

def isNegative : Option Sign → Bool
  | some .minus => true
  | _ => false

/-- A number with its sign. -/
def withSign (sign : Option Sign) (n : Nat) : Int := if isNegative sign then -n else n

/-- A number without sign: digits before a point and, where there is one, digits after it. There is
a digit on one side at least. -/
@[ext] structure Numeral where
  whole : Digits
  fraction : Option Digits
  nonempty : whole.chars ≠ [] ∨ ∃ fs, fraction = some fs ∧ fs.chars ≠ []

namespace Numeral

def text (n : Numeral) : List Char :=
  match n.fraction with
  | none => n.whole.chars
  | some fs => n.whole.chars ++ '.' :: fs.chars

/-- What the number stands for, with its sign. -/
def mantissa (n : Numeral) (negative : Bool) : Mantissa :=
  match n.fraction with
  | none => ⟨negative, valueFrom 0 n.whole.chars, 0⟩
  | some fs => ⟨negative, valueFrom 0 (n.whole.chars ++ fs.chars), fs.chars.length⟩

end Numeral

/-- A whole number, which may have a sign. -/
@[ext] structure Whole where
  sign : Option Sign
  digits : Digits
  nonempty : digits.chars ≠ []

namespace Whole

def text (n : Whole) : List Char := signText n.sign ++ n.digits.chars

def value (n : Whole) : Int := withSign n.sign (valueFrom 0 n.digits.chars)

end Whole

/-- The suffixes that are names. -/
def names : List (String × Scale) :=
  [("", .decimal 0), ("n", .decimal (-9)), ("u", .decimal (-6)), ("m", .decimal (-3)),
    ("k", .decimal 3), ("M", .decimal 6), ("G", .decimal 9), ("T", .decimal 12),
    ("P", .decimal 15), ("E", .decimal 18), ("Ki", .binary 1), ("Mi", .binary 2),
    ("Gi", .binary 3), ("Ti", .binary 4), ("Pi", .binary 5), ("Ei", .binary 6)]

/-- What stands after the number. -/
inductive Suffix where
  | named (name : String) (scale : Scale) (mem : (name, scale) ∈ names)
  /-- The letter and an exponent that fits in 32 bits with sign. -/
  | exponent (letter : Char) (mem : letter ∈ ['e', 'E']) (n : Whole)
    (fits : -2147483648 ≤ n.value ∧ n.value ≤ 2147483647)

namespace Suffix

def text : Suffix → List Char
  | named name _ _ => name.toList
  | exponent letter _ n _ => letter :: n.text

def scale : Suffix → Scale
  | named _ scale _ => scale
  | exponent _ _ n _ => .decimal n.value

end Suffix

/-- A quantity as it is written. -/
@[ext] structure Written where
  sign : Option Sign
  numeral : Numeral
  suffix : Suffix

namespace Written

/-- The part in front of the suffix. -/
def number (q : Written) : List Char := signText q.sign ++ q.numeral.text

def text (q : Written) : List Char := q.number ++ q.suffix.text

def amount (q : Written) : Amount := ⟨q.numeral.mantissa (isNegative q.sign), q.suffix.scale⟩

/-- The quantity is all that stands in a text, but for blanks around it. -/
def IsIn (q : Written) (s : String) : Prop :=
  ∃ front back : List Char, (∀ c ∈ front, isBlank c = true) ∧ (∀ c ∈ back, isBlank c = true) ∧
    s.toList = front ++ q.text ++ back

end Written

/-! ## Signs -/

variable {cs cs' : List Char} {sign sign' : Option Sign}

/-- No sign is among the characters. -/
def Unsigned (cs : List Char) : Prop := ∀ c ∈ cs, c ≠ '+' ∧ c ≠ '-'

theorem isNumberChar_of_mem_signText {c : Char} (h : c ∈ signText sign) :
    isNumberChar c = true := by
  obtain _ | _ | _ := sign <;> simp only [signText, List.mem_singleton, List.not_mem_nil] at h <;>
    subst h <;> decide

theorem isBlank_of_isNumberChar {c : Char} (h : isNumberChar c = true) : isBlank c = false := by
  simp only [isNumberChar, Bool.or_eq_true, beq_iff_eq] at h
  rcases h with ((h | rfl) | rfl) | rfl
  · exact Text.isBlank_of_isDigit h
  all_goals decide

theorem Digits.unsigned (ds : Digits) : Unsigned ds.chars := by
  intro c hc
  have := ds.isDigit c hc
  constructor <;> (rintro rfl; simp at this)

theorem Numeral.isDigit_or_eq_point (n : Numeral) {c : Char} (h : c ∈ n.text) :
    c.isDigit = true ∨ c = '.' := by
  unfold text at h
  split at h
  · exact .inl (n.whole.isDigit c h)
  · next fs _ =>
    rcases List.mem_append.1 h with h | h
    · exact .inl (n.whole.isDigit c h)
    · exact (List.mem_cons.1 h).symm.imp_left (fs.isDigit c)

theorem Numeral.unsigned (n : Numeral) : Unsigned n.text := by
  intro c hc
  rcases n.isDigit_or_eq_point hc with h | rfl
  · constructor <;> (rintro rfl; simp at h)
  · decide

theorem Numeral.text_ne_nil (n : Numeral) : n.text ≠ [] := by
  unfold text
  split
  · next hnone =>
    refine n.nonempty.resolve_right ?_
    rintro ⟨fs, hfs, -⟩
    cases hnone.symm.trans hfs
  · exact fun h => List.cons_ne_nil _ _ (List.append_eq_nil_iff.1 h).2

theorem signText_append_inj (h : Unsigned cs) (h' : Unsigned cs')
    (heq : signText sign ++ cs = signText sign' ++ cs') : sign = sign' ∧ cs = cs' := by
  rcases sign with _ | _ | _ <;> rcases sign' with _ | _ | _ <;> simp only [signText] at heq <;>
    grind [Unsigned]

/-- A reader takes the sign away, and reads what follows it. -/
structure ReadsSign {α : Type} (read : List Char → Option α)
    (after : Option Sign → List Char → Option α) : Prop where
  plus (cs : List Char) : read ('+' :: cs) = after (some .plus) cs
  minus (cs : List Char) : read ('-' :: cs) = after (some .minus) cs
  unsigned {cs : List Char} : (∀ rest, cs ≠ '+' :: rest) → (∀ rest, cs ≠ '-' :: rest) →
    read cs = after none cs

theorem readsSign_mantissa? : ReadsSign mantissa? fun sign => unsigned? (isNegative sign) where
  plus _ := rfl
  minus _ := rfl
  unsigned hplus hminus := mantissa?.eq_3 _ hplus hminus

theorem readsSign_readInt? :
    ReadsSign readInt? fun sign cs => (readNat? cs).map (withSign sign) where
  plus _ := rfl
  minus _ := rfl
  unsigned hplus hminus := Text.readInt?.eq_3 _ hplus hminus

namespace ReadsSign

variable {α : Type} {read : List Char → Option α} {after : Option Sign → List Char → Option α}

theorem read_signText (h : ReadsSign read after) (sign : Option Sign) (hcs : Unsigned cs) :
    read (signText sign ++ cs) = after sign cs := by
  obtain _ | _ | _ := sign
  · rw [signText, List.nil_append]
    refine h.unsigned (fun rest heq => ?_) fun rest heq => ?_
    · exact (hcs '+' (heq ▸ .head _)).1 rfl
    · exact (hcs '-' (heq ▸ .head _)).2 rfl
  · exact h.plus cs
  · exact h.minus cs

theorem exists_signText (h : ReadsSign read after) (cs : List Char) :
    ∃ sign cs', signText sign ++ cs' = cs ∧ read cs = after sign cs' := by
  by_cases hplus : ∃ rest, cs = '+' :: rest
  · obtain ⟨rest, rfl⟩ := hplus
    exact ⟨some .plus, rest, rfl, h.plus rest⟩
  by_cases hminus : ∃ rest, cs = '-' :: rest
  · obtain ⟨rest, rfl⟩ := hminus
    exact ⟨some .minus, rest, rfl, h.minus rest⟩
  · exact ⟨none, cs, rfl, h.unsigned (not_exists.1 hplus) (not_exists.1 hminus)⟩

end ReadsSign

/-! ## Numbers -/

theorem Numeral.takeWhile_text (n : Numeral) : n.text.takeWhile Char.isDigit = n.whole.chars := by
  unfold text
  split
  · exact List.takeWhile_eq_self_iff.2 n.whole.isDigit
  · rw [List.takeWhile_append_of_pos n.whole.isDigit, List.takeWhile_cons_of_neg (by decide),
      List.append_nil]

theorem Numeral.dropWhile_text (n : Numeral) : n.text.dropWhile Char.isDigit =
    (n.fraction.map fun fs => '.' :: fs.chars).getD [] := by
  unfold text
  split
  · next h =>
    rw [h]
    exact List.dropWhile_eq_nil_iff.2 n.whole.isDigit
  · next h =>
    rw [h, List.dropWhile_append_of_pos n.whole.isDigit, List.dropWhile_cons_of_neg (by decide)]
    rfl

theorem Numeral.unsigned?_text (n : Numeral) (negative : Bool) :
    unsigned? negative n.text = some (n.mantissa negative) := by
  obtain ⟨whole, fraction, hsome⟩ := n
  unfold unsigned?
  rw [Numeral.takeWhile_text, Numeral.dropWhile_text]
  cases fraction with
  | none => simpa [mantissa] using hsome
  | some fs =>
    have hfs : fs.chars.all Char.isDigit = true := List.all_eq_true.2 fs.isDigit
    simpa [mantissa, Classical.or_iff_not_imp_left, hfs] using hsome

theorem Numeral.exists_text {negative : Bool} {m : Mantissa} (h : unsigned? negative cs = some m) :
    ∃ n : Numeral, n.text = cs ∧ n.mantissa negative = m := by
  have hwhole : ∀ c ∈ cs.takeWhile Char.isDigit, c.isDigit = true := fun c =>
    List.mem_takeWhile_imp
  have hcs := List.takeWhile_append_dropWhile (p := Char.isDigit) (l := cs)
  unfold unsigned? at h
  dsimp only at h
  split at h
  · next hrest =>
    split at h
    · cases h
    · next hne =>
      cases h
      rw [hrest, List.append_nil] at hcs
      exact ⟨⟨⟨_, hwhole⟩, none, .inl (by simpa using hne)⟩, hcs, rfl⟩
  · next c fraction hrest =>
    split at h
    · next hpoint =>
      simp only [Bool.and_eq_true, decide_eq_true_eq, List.all_eq_true] at hpoint
      obtain ⟨⟨rfl, hfraction⟩, hne⟩ := hpoint
      cases h
      refine ⟨⟨⟨_, hwhole⟩, some ⟨fraction, hfraction⟩, ?_⟩, ?_, rfl⟩
      · simpa [Classical.or_iff_not_imp_left] using hne
      · rw [hrest] at hcs
        exact hcs
    · cases h

theorem Numeral.text_injective : Function.Injective text := by
  intro n n' h
  have hwhole : n.whole = n'.whole := Digits.ext (by rw [← takeWhile_text, h, takeWhile_text])
  have hfraction := congrArg (List.dropWhile Char.isDigit) h
  rw [dropWhile_text, dropWhile_text] at hfraction
  refine Numeral.ext hwhole ?_
  generalize n.fraction = fraction at hfraction
  generalize n'.fraction = fraction' at hfraction
  match fraction, fraction' with
  | none, none => rfl
  | some fs, some fs' => exact congrArg some (Digits.ext (List.cons.inj hfraction).2)

theorem exists_mantissa? {m : Mantissa} (h : mantissa? cs = some m) :
    ∃ sign, ∃ n : Numeral, signText sign ++ n.text = cs ∧ n.mantissa (isNegative sign) = m := by
  obtain ⟨sign, cs', hcs, hmantissa⟩ := readsSign_mantissa?.exists_signText cs
  rw [hmantissa] at h
  obtain ⟨n, rfl, hn⟩ := Numeral.exists_text h
  exact ⟨sign, n, hcs, hn⟩

/-! ## Exponents -/

theorem Whole.readInt?_text (n : Whole) : readInt? n.text = some n.value := by
  have hdigits : n.digits.chars.all Char.isDigit = true := List.all_eq_true.2 n.digits.isDigit
  rw [text, readsSign_readInt?.read_signText n.sign n.digits.unsigned, readNat?, hdigits]
  simp [n.nonempty, value]

theorem Whole.exists_text {v : Int} (h : readInt? cs = some v) :
    ∃ n : Whole, n.text = cs ∧ n.value = v := by
  obtain ⟨sign, cs', hcs, hread⟩ := readsSign_readInt?.exists_signText cs
  rw [hread] at h
  obtain ⟨m, hm, hv⟩ := Option.map_eq_some_iff.1 h
  unfold readNat? at hm
  split at hm
  · cases hm
  · next hdigits =>
    cases hm
    simp only [Bool.or_eq_true, Bool.not_eq_true', not_or, Bool.not_eq_true,
      List.isEmpty_eq_false_iff, Bool.not_eq_false, List.all_eq_true] at hdigits
    exact ⟨⟨sign, ⟨cs', hdigits.2⟩, hdigits.1⟩, hcs, hv⟩

theorem Whole.text_injective : Function.Injective text := by
  intro n n' h
  obtain ⟨hsign, hdigits⟩ := signText_append_inj n.digits.unsigned n'.digits.unsigned h
  exact Whole.ext hsign (Digits.ext hdigits)

theorem Whole.isNumberChar_of_mem_text (n : Whole) {c : Char} (h : c ∈ n.text) :
    isNumberChar c = true := by
  rcases List.mem_append.1 h with h | h
  · exact isNumberChar_of_mem_signText h
  · simp [isNumberChar, n.digits.isDigit c h]

/-! ## Suffixes -/

theorem namedScale?_eq_some_iff {sc : Scale} :
    namedScale? cs = some sc ↔ ∃ name, (name, sc) ∈ names ∧ name.toList = cs := by
  constructor
  · intro h
    refine ⟨String.ofList cs, ?_, String.toList_ofList⟩
    unfold namedScale? at h
    split at h <;> cases h <;> decide
  · rintro ⟨name, hname, rfl⟩
    have hall : ∀ entry ∈ names, namedScale? entry.1.toList = some entry.2 := by decide
    exact hall _ hname

theorem eq_of_mem_letters {letter : Char} (h : letter ∈ ['e', 'E']) :
    letter = 'e' ∨ letter = 'E' := by
  simpa using h

/-- A letter with an exponent is no name. -/
theorem namedScale?_exponent {letter : Char} (hletter : letter ∈ ['e', 'E']) (n : Whole) :
    namedScale? (letter :: n.text) = none := by
  have hne : n.text ≠ [] := by simp [Whole.text, n.nonempty]
  have hi : 'i' ∉ n.text := fun h => absurd (n.isNumberChar_of_mem_text h) (by decide)
  unfold namedScale?
  split <;> simp_all

theorem Suffix.scale?_text (s : Suffix) : scale? s.text = some s.scale := by
  cases s with
  | named name sc hmem =>
    have hnamed : namedScale? name.toList = some sc := namedScale?_eq_some_iff.2 ⟨name, hmem, rfl⟩
    simp only [text, scale?, hnamed, scale]
  | exponent letter hletter n hfits =>
    have hexponent : exponent? n.text = some n.value := by
      rw [exponent?, n.readInt?_text]
      simp [hfits]
    simp only [text, scale?, namedScale?_exponent hletter, scale]
    obtain rfl | rfl := eq_of_mem_letters hletter
    · simp only [hexponent, Option.map_some]
    · simp only [hexponent, Option.map_some]

theorem Suffix.exists_text {sc : Scale} (h : scale? cs = some sc) :
    ∃ s : Suffix, s.text = cs ∧ s.scale = sc := by
  have hexponent (letter : Char) (hletter : letter ∈ ['e', 'E']) {exp : List Char}
      (hexp : (exponent? exp).map Scale.decimal = some sc) :
      ∃ s : Suffix, s.text = letter :: exp ∧ s.scale = sc := by
    obtain ⟨v, hv, rfl⟩ := Option.map_eq_some_iff.1 hexp
    obtain ⟨hread, hfits⟩ := Option.filter_eq_some_iff.1 hv
    obtain ⟨n, rfl, rfl⟩ := Whole.exists_text hread
    exact ⟨.exponent letter hletter n (by simpa using hfits), rfl, rfl⟩
  unfold scale? at h
  split at h
  · next hnamed =>
    cases h
    obtain ⟨name, hmem, rfl⟩ := namedScale?_eq_some_iff.1 hnamed
    exact ⟨.named name sc hmem, rfl, rfl⟩
  · split at h
    · exact hexponent 'e' (by decide) h
    · exact hexponent 'E' (by decide) h
    · cases h

/-- A name is no letter with an exponent, so a suffix is of one kind alone. -/
theorem Suffix.text_injective : Function.Injective text := by
  intro s s' h
  have hscale : s.scale = s'.scale := Option.some.inj (by rw [← scale?_text, h, scale?_text])
  cases s with
  | named name sc hmem =>
    cases s' with
    | named name' sc' hmem' =>
      obtain rfl : name = name' := String.toList_inj.1 h
      obtain rfl : sc = sc' := hscale
      rfl
    | exponent letter hletter n hfits =>
      have hnamed := namedScale?_eq_some_iff.2 ⟨name, hmem, h⟩
      cases (namedScale?_exponent hletter n).symm.trans hnamed
  | exponent letter hletter n hfits =>
    cases s' with
    | named name sc hmem =>
      have hnamed := namedScale?_eq_some_iff.2 ⟨name, hmem, h.symm⟩
      cases (namedScale?_exponent hletter n).symm.trans hnamed
    | exponent letter' hletter' n' hfits' =>
      obtain ⟨rfl, hn⟩ := List.cons.inj h
      obtain rfl := Whole.text_injective hn
      rfl

/-! ## Whole texts -/

namespace Written

variable {q : Written}

theorem isNumberChar_of_mem_number {c : Char} (h : c ∈ q.number) : isNumberChar c = true := by
  rcases List.mem_append.1 h with h | h
  · exact isNumberChar_of_mem_signText h
  · rcases q.numeral.isDigit_or_eq_point h with h | rfl
    · simp [isNumberChar, h]
    · decide

theorem takeWhile_suffix (s : Suffix) : s.text.takeWhile isNumberChar = [] := by
  cases s with
  | named name scale mem =>
    have hall : ∀ entry ∈ names, entry.1.toList.takeWhile isNumberChar = [] := by decide
    exact hall _ mem
  | exponent letter mem n fits =>
    have hletter : isNumberChar letter = false := by
      obtain rfl | rfl := eq_of_mem_letters mem <;> rfl
    exact List.takeWhile_cons_of_neg (by simp [hletter])

theorem takeWhile_text (q : Written) : q.text.takeWhile isNumberChar = q.number := by
  rw [text, List.takeWhile_append_of_pos fun _ => isNumberChar_of_mem_number, takeWhile_suffix,
    List.append_nil]

theorem dropWhile_text (q : Written) : q.text.dropWhile isNumberChar = q.suffix.text := by
  have h := List.takeWhile_append_dropWhile (p := isNumberChar) (l := q.text)
  rw [takeWhile_text, text] at h
  exact List.append_cancel_left h

theorem text_ne_nil (q : Written) : q.text ≠ [] := by
  simp [text, number, q.numeral.text_ne_nil]

theorem amount?_text (q : Written) : amount? q.text = some q.amount := by
  rw [amount?, takeWhile_text, dropWhile_text, if_neg (by simp [text_ne_nil]), number,
    readsSign_mantissa?.read_signText q.sign q.numeral.unsigned, q.numeral.unsigned?_text,
    q.suffix.scale?_text]
  rfl

theorem exists_text {a : Amount} (h : amount? cs = some a) : ∃ q : Written, q.text = cs := by
  unfold amount? at h
  split at h
  · cases h
  · obtain ⟨m, hm, h⟩ := Option.bind_eq_some_iff.1 h
    obtain ⟨sc, hscale, -⟩ := Option.bind_eq_some_iff.1 h
    obtain ⟨sign, n, hnumber, -⟩ := exists_mantissa? hm
    obtain ⟨suffix, hsuffix, -⟩ := Suffix.exists_text hscale
    refine ⟨⟨sign, n, suffix⟩, ?_⟩
    rw [text, number, hnumber, hsuffix, List.takeWhile_append_dropWhile]

theorem text_injective : Function.Injective text := by
  intro q q' h
  have hnumber : q.number = q'.number := by rw [← takeWhile_text, h, takeWhile_text]
  have hsuffix : q.suffix.text = q'.suffix.text := by rw [← dropWhile_text, h, dropWhile_text]
  obtain ⟨hsign, hnumeral⟩ := signText_append_inj q.numeral.unsigned q'.numeral.unsigned hnumber
  exact Written.ext hsign (Numeral.text_injective hnumeral) (Suffix.text_injective hsuffix)

theorem isBlank_of_mem_text {c : Char} (h : c ∈ q.text) : isBlank c = false := by
  rcases List.mem_append.1 h with h | h
  · exact isBlank_of_isNumberChar (isNumberChar_of_mem_number h)
  · generalize q.suffix = suffix at h
    cases suffix with
    | named name scale mem =>
      have hall : ∀ entry ∈ names, entry.1.toList.all (!isBlank ·) = true := by decide
      simpa using List.all_eq_true.1 (hall _ mem) c h
    | exponent letter mem n fits =>
      rcases List.mem_cons.1 h with rfl | h
      · obtain rfl | rfl := eq_of_mem_letters mem <;> rfl
      · exact isBlank_of_isNumberChar (n.isNumberChar_of_mem_text h)

theorem isIn_iff {s : String} : q.IsIn s ↔ q.text = trim s.toList := by
  constructor
  · rintro ⟨front, back, hfront, hback, hs⟩
    rw [hs, trim_append hfront hback (fun _ => isBlank_of_mem_text) q.text_ne_nil]
  · intro h
    obtain ⟨front, back, hfront, hback, hs⟩ := exists_trim s.toList
    exact ⟨front, back, hfront, hback, h ▸ hs⟩

end Written

/-! ## Parsing -/

variable {suffix : List Char} {e a b shift : Int}

/-- The exponent of a suffix fits in 32 bits with sign. -/
theorem exponent_mem_of_scale? (h : scale? suffix = some (.decimal e)) :
    -2147483648 ≤ e ∧ e ≤ 2147483647 := by
  have hexponent (cs : List Char) (hcs : (exponent? cs).map Scale.decimal = some (.decimal e)) :
      -2147483648 ≤ e ∧ e ≤ 2147483647 := by
    obtain ⟨e', he', ⟨⟩⟩ := Option.map_eq_some_iff.1 hcs
    simpa using (Option.filter_eq_some_iff.1 he').2
  unfold scale? at h
  split at h
  · next hnamed =>
    cases h
    unfold namedScale? at hnamed
    split at hnamed <;> cases hnamed <;> omega
  · split at h
    · exact hexponent _ h
    · exact hexponent _ h
    · cases h

theorem scale?_of_read? {s : String} {q : Amount} (h : read? s = some q) :
    ∃ suffix, scale? suffix = some q.scale := by
  unfold read? amount? at h
  split at h
  · cases h
  · obtain ⟨m, _, h⟩ := Option.bind_eq_some_iff.1 h
    obtain ⟨scale, hscale, ⟨⟩⟩ := Option.bind_eq_some_iff.1 h
    exact ⟨_, hscale⟩

theorem addExponents_of_le (hlow : -2147483648 ≤ a + b) (hhigh : a + b ≤ 2147483647) :
    addExponents a b = .value (a + b) := by
  simp [addExponents, hlow, hhigh]

/-- A quantity has a value in units of `10 ^ -shift`, unless its exponent is too large for it. -/
theorem exists_inUnits {s : String} {q : Amount} (h : read? s = some q) (hshift : 0 ≤ shift)
    (hfits : ∀ e, q.scale = .decimal e → e + shift ≤ 2147483647) :
    ∃ x, q.inUnits shift = .value x := by
  obtain ⟨suffix, hscale⟩ := scale?_of_read? h
  unfold Amount.inUnits
  split
  · next e he =>
    have hlow := (exponent_mem_of_scale? (he ▸ hscale)).1
    rw [addExponents_of_le (by omega) (hfits e he)]
    exact ⟨_, rfl⟩
  · exact ⟨_, rfl⟩

theorem parse_of_read?_eq_none {s : String} (h : read? s = none) :
    parse s = .value none ∧ value (some s) = .value 0 := by
  constructor
  · rw [parse, h]
    rfl
  · rw [value, wholeUnits, Option.bind_some, h]
    rfl

theorem parse_of_isIn {q : Written} {s : String} (h : q.IsIn s) :
    ∃ x, q.amount.inUnits 0 = .value x ∧ parse s = .value (some x) := by
  have hread : read? s = some q.amount := by
    rw [read?, ← Written.isIn_iff.1 h, Written.amount?_text]
  obtain ⟨suffix, hscale⟩ := scale?_of_read? hread
  obtain ⟨x, hx⟩ := exists_inUnits hread (Int.le_refl 0) fun e he => by
    have := (exponent_mem_of_scale? (he ▸ hscale)).2
    omega
  refine ⟨x, hx, ?_⟩
  rw [parse, hread]
  simp only [hx]
  rfl

theorem read?_eq_none_of_not_isIn {s : String} (h : ¬ ∃ q : Written, q.IsIn s) :
    read? s = none := by
  refine Option.eq_none_iff_forall_ne_some.2 fun a ha => h ?_
  obtain ⟨q, hq⟩ := Written.exists_text ha
  exact ⟨q, Written.isIn_iff.2 hq⟩

/-- A text is parsed exactly if a quantity is written in it, and then as that one. There is never a
second one: a suffix that is `E` alone is a name, and `E` in front of a whole number is an exponent.
Any other text has no value, and counts as zero. -/
theorem parse_iff_written (s : String) :
    ((∃ x, parse s = .value (some x)) ↔ ∃ q : Written, q.IsIn s) ∧
    (∀ q : Written, q.IsIn s →
      (∃ x, q.amount.inUnits 0 = .value x ∧ parse s = .value (some x)) ∧
        ∀ q' : Written, q'.IsIn s → q' = q) ∧
    ((¬ ∃ q : Written, q.IsIn s) → parse s = .value none ∧ value (some s) = .value 0) := by
  refine ⟨⟨fun ⟨x, hx⟩ => ?_, fun ⟨q, hq⟩ => ?_⟩, fun q hq => ⟨parse_of_isIn hq, fun q' hq' => ?_⟩,
    fun h => parse_of_read?_eq_none (read?_eq_none_of_not_isIn h)⟩
  · by_contra h
    have hnone := (parse_of_read?_eq_none (read?_eq_none_of_not_isIn h)).1
    cases hnone.symm.trans hx
  · obtain ⟨x, -, hx⟩ := parse_of_isIn hq
    exact ⟨x, hx⟩
  · exact Written.text_injective ((Written.isIn_iff.1 hq').trans (Written.isIn_iff.1 hq).symm)

example : read? "1E" = some ⟨⟨false, 1, 0⟩, .decimal 18⟩ := by decide

example : read? "1E2" = some ⟨⟨false, 1, 0⟩, .decimal 2⟩ := by decide

/-- Between blanks stand half a thousand below zero, with an exponent; an `e` without one is no
suffix. -/
theorem parse_iff_written_exponent :
    let q : Written :=
      { sign := some .minus
        numeral := ⟨.none, some (.one '5' rfl), .inr ⟨_, rfl, List.cons_ne_nil _ _⟩⟩
        suffix := .exponent 'E' (.tail _ (.head _))
          ⟨some .plus, .one '3' rfl, List.cons_ne_nil _ _⟩ (by decide) }
    q.IsIn "\u00a0-.5E+3\n" ∧ q.amount = ⟨⟨true, 5, 1⟩, .decimal 3⟩ ∧
      (∃ x, q.amount.inUnits 0 = .value x ∧ parse "\u00a0-.5E+3\n" = .value (some x)) ∧
      (∀ q' : Written, q'.IsIn "\u00a0-.5E+3\n" → q' = q) ∧
      (¬ ∃ q' : Written, q'.IsIn "5e") ∧ value (some "5e") = .value 0 := by
  intro q
  have hq : q.IsIn "\u00a0-.5E+3\n" :=
    ⟨['\u00a0'], ['\n'], List.forall_mem_singleton.2 rfl, List.forall_mem_singleton.2 rfl, rfl⟩
  obtain ⟨hparse, hunique⟩ := (parse_iff_written _).2.1 q hq
  have hnone : ¬ ∃ q' : Written, q'.IsIn "5e" := fun h => by
    obtain ⟨x, hx⟩ := (parse_iff_written "5e").1.2 h
    cases (parse_of_read?_eq_none (s := "5e") (by decide)).1.symm.trans hx
  exact ⟨hq, by decide, hparse, hunique, hnone, ((parse_iff_written "5e").2.2 hnone).2⟩

end Quantity

end ClusterInventory
