import ConfigRules.Proofs.FloatStyle
import ConfigRules.Proofs.Except
import ConfigRules.Interval.Reader

/-!
Reading the text of an interval. Its endpoints come back, whatever white space stands between its
tokens, if every float among them is written with a point.
-/

namespace ConfigRules

namespace Number

/-- If it is a float, it is written with a point. -/
def Pointed (n : Number) : Prop := n.kind = .float → '.' ∈ n.chars

variable {n : Number} {c : Char} {cs rest : List Char} {length : Nat}

/-- The number that a text begins with is the one that was written there. -/
theorem atFront?_chars (hp : n.Pointed) (h : Numeral.EndsNumber rest) :
    atFront? (n.chars ++ rest) = some (n, n.chars.length) := by
  cases n with
  | int n => exact atFront?_int n h.integer
  | float x =>
    have hpoint := hp rfl
    cases x with
    | finite x =>
      have hlongest := Binary64.messageStyle.longest?_finiteChars hpoint h
      have hread : ofNumeral? (float (.finite x)).chars = some (float (.finite x)) := by
        unfold ofNumeral?
        rw [if_pos hpoint]
        exact congrArg (Option.map float) (Binary64.messageStyle.readFloat?_finiteChars x)
      exact atFront?_eq_some.mpr ⟨_, hlongest, hread, rfl⟩
    | infinite negative => cases negative <;> exact absurd hpoint (by decide)
    | nan => exact absurd hpoint (by decide)

/-- No number begins with white space. -/
theorem not_blank_of_atFront? (h : atFront? (c :: cs) = some (n, length)) :
    Text.isBlank c = false := by
  obtain ⟨numeral, hnumeral, _⟩ := atFront?_eq_some.mp h
  obtain ⟨d, ds, rfl⟩ := List.exists_cons_of_ne_nil (Numeral.longest?_ne_nil hnumeral)
  obtain rfl := (List.cons_prefix_cons.mp (Numeral.longest?_prefix hnumeral)).1
  exact (Numeral.isPart_of_mem_longest? hnumeral List.mem_cons_self).not_blank

/-- A number that is read as a float has a point in what is read of it. -/
theorem point_of_atFront? {x : Binary64} (h : atFront? cs = some (float x, length)) :
    ∃ numeral, Numeral.longest? cs = some numeral ∧ '.' ∈ numeral := by
  obtain ⟨numeral, hnumeral, hread, _⟩ := atFront?_eq_some.mp h
  refine ⟨numeral, hnumeral, ?_⟩
  unfold ofNumeral? at hread
  split at hread
  · assumption
  · cases hi : Numeral.readInt? numeral <;> simp [hi] at hread

end Number

namespace Interval

/-- The marks of the unbounded sides. -/
def marks : List (List Char) := ["-inf".toList, "+inf".toList]

variable {w mark cs rest allowed : List Char} {c : Char} {n : Number} {length : Nat}

theorem atFront?_mark (hm : mark ∈ marks) (rest : List Char) :
    Number.atFront? (mark ++ rest) = none := by
  rcases List.mem_pair.mp hm with rfl | rfl <;> rfl

theorem skipBlanks_append (hw : ∀ c ∈ w, Text.isBlank c = true) (cs : List Char) :
    skipBlanks (w ++ cs) = skipBlanks cs :=
  List.dropWhile_append_of_pos hw

theorem skipBlanks_cons (hc : Text.isBlank c = false) (cs : List Char) :
    skipBlanks (c :: cs) = c :: cs :=
  List.dropWhile_cons_of_neg (by simp [hc])

/-- A token of one character is read behind white space. -/
theorem readOne_token (hw : ∀ c ∈ w, Text.isBlank c = true) (hb : Text.isBlank c = false)
    (hc : c ∈ allowed) (rest : List Char) : readOne allowed (w ++ c :: rest) = .ok (c, rest) := by
  unfold readOne
  rw [skipBlanks_append hw, skipBlanks_cons hb]
  exact if_pos hc

/-- A bracket is neither white space nor part of a number. -/
theorem bracket_plain (h : c ∈ ['[', ']']) : Text.isBlank c = false ∧ ¬ Numeral.IsPart c := by
  rcases List.mem_pair.mp h with rfl | rfl <;> decide

theorem readOne_bracket (hw : ∀ c ∈ w, Text.isBlank c = true) (hc : c ∈ ['[', ']'])
    (rest : List Char) : readOne ['[', ']'] (w ++ c :: rest) = .ok (c, rest) :=
  readOne_token hw (bracket_plain hc).1 hc rest

theorem readBound_mark (hw : ∀ c ∈ w, Text.isBlank c = true) (hm : mark ∈ marks)
    (rest : List Char) : readBound mark (w ++ (mark ++ rest)) = .ok (none, rest) := by
  have hskip : skipBlanks (w ++ (mark ++ rest)) = mark ++ rest := by
    rw [skipBlanks_append hw]
    rcases List.mem_pair.mp hm with rfl | rfl <;> exact skipBlanks_cons (by decide) _
  have hprefix : mark.isPrefixOf (mark ++ rest) = true :=
    List.isPrefixOf_iff_prefix.mpr (List.prefix_append mark rest)
  unfold readBound
  rw [hskip]
  dsimp only
  rw [if_pos hprefix, List.drop_left]

theorem readBound_number (hw : ∀ c ∈ w, Text.isBlank c = true) (hm : mark ∈ marks)
    (h : Number.atFront? cs = some (n, length)) :
    readBound mark (w ++ cs) = .ok (some n, cs.drop length) := by
  have hskip : skipBlanks (w ++ cs) = cs := by
    rw [skipBlanks_append hw]
    cases cs with
    | nil => cases h
    | cons c cs => exact skipBlanks_cons (Number.not_blank_of_atFront? h) cs
  have hprefix : ¬ mark.isPrefixOf cs = true := by
    intro hp
    obtain ⟨rest, rfl⟩ := List.isPrefixOf_iff_prefix.mp hp
    cases (atFront?_mark hm rest).symm.trans h
  unfold readBound
  rw [hskip]
  dsimp only
  rw [if_neg hprefix, h]

end Interval

namespace Endpoint

/-- The text of a bound; without a number, the mark of its side. -/
def boundChars (mark : List Char) (e : Endpoint) : List Char :=
  (e.number.map Number.chars).getD mark

/-- The bracket on the left of an interval, and then the one on its right. -/
def leftBracket (e : Endpoint) : Char := if e.isOpen then ']' else '['

def rightBracket (e : Endpoint) : Char := if e.isOpen then '[' else ']'

theorem leftBracket_mem (e : Endpoint) : e.leftBracket ∈ ['[', ']'] := by
  unfold leftBracket
  split <;> simp

theorem rightBracket_mem (e : Endpoint) : e.rightBracket ∈ ['[', ']'] := by
  unfold rightBracket
  split <;> simp

/-- A number at the end that is a float is written with a point. -/
def Pointed (e : Endpoint) : Prop := ∀ n ∈ e.number, n.Pointed

end Endpoint

namespace Interval

variable {w mark rest : List Char} {e : Endpoint}

theorem readBound_endpoint (hw : ∀ c ∈ w, Text.isBlank c = true) (hm : mark ∈ marks)
    (he : e.Pointed) (hr : Numeral.EndsNumber rest) :
    readBound mark (w ++ (e.boundChars mark ++ rest)) = .ok (e.number, rest) := by
  obtain ⟨number, isOpen⟩ := e
  cases number with
  | none => exact readBound_mark hw hm rest
  | some n =>
    have hfront := Number.atFront?_chars (he n rfl) hr
    have hread := readBound_number hw hm hfront
    rwa [List.drop_left] at hread

/-- White space. -/
abbrev Blanks := { cs : List Char // ∀ c ∈ cs, Text.isBlank c = true }

/-- White space around the five tokens of an interval. -/
structure Padding where
  first : Blanks
  beforeLow : Blanks
  afterLow : Blanks
  beforeHigh : Blanks
  afterHigh : Blanks
  last : Blanks

namespace Padding

/-- Two bounds between brackets and with a comma, and white space around all of them. -/
def around (p : Padding) (left : Char) (low high : List Char) (right : Char) : List Char :=
  p.first.1 ++ left :: (p.beforeLow.1 ++ (low ++ (p.afterLow.1 ++
    ',' :: (p.beforeHigh.1 ++ (high ++ (p.afterHigh.1 ++ right :: p.last.1))))))

/-- No white space at all. -/
def none : Padding :=
  let nothing : Blanks := ⟨[], nofun⟩
  ⟨nothing, nothing, nothing, nothing, nothing, nothing⟩

end Padding

theorem charsOf_eq_around (lower upper : Endpoint) :
    charsOf lower upper = Padding.none.around lower.leftBracket (lower.boundChars "-inf".toList)
      (upper.boundChars "+inf".toList) upper.rightBracket := by
  unfold charsOf
  simp [Padding.around, Padding.none, Endpoint.leftBracket, Endpoint.rightBracket,
    Endpoint.boundChars]

/-- White space and then a comma or a bracket end a number. -/
theorem endsNumber_blanks (w : Blanks) {c : Char} (hc : ¬ Numeral.IsPart c) (rest : List Char) :
    Numeral.EndsNumber (w.1 ++ c :: rest) := by
  obtain ⟨w, hw⟩ := w
  intro d hd
  cases w with
  | nil =>
    cases hd
    exact hc
  | cons b w =>
    cases hd
    intro hpart
    cases (hw d List.mem_cons_self).symm.trans hpart.not_blank

/-- The endpoints of an interval are read from its text, with white space anywhere around its
tokens. -/
theorem readEndpoints_around (p : Padding) {lower upper : Endpoint} (hl : lower.Pointed)
    (hu : upper.Pointed) :
    readEndpoints (p.around lower.leftBracket (lower.boundChars "-inf".toList)
      (upper.boundChars "+inf".toList) upper.rightBracket) = .ok (lower, upper) := by
  have hleft : ∀ rest, readOne ['[', ']'] (p.first.1 ++ lower.leftBracket :: rest) =
      .ok (lower.leftBracket, rest) :=
    readOne_bracket p.first.2 lower.leftBracket_mem
  have hlow : ∀ rest, readBound "-inf".toList (p.beforeLow.1 ++
      (lower.boundChars "-inf".toList ++ (p.afterLow.1 ++ ',' :: rest))) =
        .ok (lower.number, p.afterLow.1 ++ ',' :: rest) :=
    fun rest => readBound_endpoint p.beforeLow.2 (by decide) hl
      (endsNumber_blanks p.afterLow (by decide) rest)
  have hcomma : ∀ rest, readOne [','] (p.afterLow.1 ++ ',' :: rest) = .ok (',', rest) :=
    readOne_token p.afterLow.2 (by decide) (by decide)
  have hhigh : ∀ rest, readBound "+inf".toList (p.beforeHigh.1 ++
      (upper.boundChars "+inf".toList ++ (p.afterHigh.1 ++ upper.rightBracket :: rest))) =
        .ok (upper.number, p.afterHigh.1 ++ upper.rightBracket :: rest) :=
    fun rest => readBound_endpoint p.beforeHigh.2 (by decide) hu
      (endsNumber_blanks p.afterHigh (bracket_plain upper.rightBracket_mem).2 rest)
  have hright : readOne ['[', ']'] (p.afterHigh.1 ++ upper.rightBracket :: p.last.1) =
      .ok (upper.rightBracket, p.last.1) :=
    readOne_bracket p.afterHigh.2 upper.rightBracket_mem _
  have hlast : skipBlanks p.last.1 = [] := by
    have hskip := skipBlanks_append p.last.2 []
    rwa [List.append_nil] at hskip
  unfold readEndpoints Padding.around
  simp only [hleft, hlow, hcomma, hhigh, hright, hlast, bind, Except.bind]
  obtain ⟨low, lowOpen⟩ := lower
  obtain ⟨high, highOpen⟩ := upper
  cases lowOpen <;> cases highOpen <;> rfl

/-- The endpoints of an interval bound one. -/
theorem between_endpoints (i : Interval) : between i.lower i.upper = .ok i := by
  unfold between
  split
  · rfl
  · rename_i h
    cases i.valid.symm.trans h

theorem between_ok {i : Interval} {lower upper : Endpoint} (h : between lower upper = .ok i) :
    i.lower = lower ∧ i.upper = upper := by
  unfold between at h
  split at h
  · cases h
    exact ⟨rfl, rfl⟩
  · cases h

end Interval

end ConfigRules
