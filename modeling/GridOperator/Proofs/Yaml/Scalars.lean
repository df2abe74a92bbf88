import GridOperator.Proofs.Text.Cutting
import GridOperator.Proofs.Text.Hexadecimal
import GridOperator.Proofs.Yaml.Layout
import Mathlib.Data.List.Nodup

/-!
# Scalars that can be told apart

Where a scalar ends can be seen from the text, and so can which scalar it is: two texts
that begin with scalars and are equal begin with the same scalar and go on equally. What
follows has to be known for that: the end of the line or a colon after a token, lines that
are not indented as far after several lines.
-/

namespace GridOperator.Yaml

variable {column : Nat} {cs ds r r' : List Char} {broken : Bool}

/-! ## Lines -/

/-- A text on a new line, which is indented unless a break follows at once. -/
def indentLine (column : Nat) (cs : List Char) : List Char :=
  if cs.head?.any isBreak then cs else spaces column ++ cs

theorem indentLine_cancel (hcolumn : 0 < column) (h : indentLine column cs = indentLine column ds) :
    cs = ds := by
  obtain ⟨n, rfl⟩ : ∃ n, column = n + 1 := ⟨column - 1, by omega⟩
  have hne {t t' : List Char} (ht : t.head?.any isBreak = true) : t ≠ spaces (n + 1) ++ t' := by
    rintro rfl
    exact Bool.false_ne_true ht
  unfold indentLine at h
  split at h <;> split at h
  · exact h
  · exact absurd h (hne ‹_›)
  · exact absurd h.symm (hne ‹_›)
  · exact List.append_cancel_left h

/-! ## Texts in single quotes -/

theorem singleText_cons (c : Char) : singleText column false (c :: cs) = c ::
    if isBreak c then singleText column true cs
    else (if c = '\'' then ['\''] else []) ++ singleText column false cs := by
  rw [singleText]
  by_cases hbreak : isBreak c = true
  · rw [if_pos hbreak, if_pos hbreak]
  · by_cases hquote : c = '\'' <;> simp only [hbreak, hquote] <;> rfl

theorem singleText_broken (r : List Char) : singleText column true cs ++ '\'' :: r =
    indentLine column (singleText column false cs ++ '\'' :: r) := by
  cases cs with
  | nil => simp [singleText, indentLine, isBreak]
  | cons c cs =>
    rw [singleText_cons, singleText, indentLine]
    by_cases hbreak : isBreak c = true
    · simp [hbreak]
    · by_cases hquote : c = '\''
      · simp [hquote, isBreak]
      · simp [hbreak, hquote]

/-- Without breaks there are no further lines to indent. -/
theorem singleText_of_noBreak (h : cs.any isBreak = false) (column column' : Nat) :
    singleText column false cs = singleText column' false cs := by
  induction cs with
  | nil => rfl
  | cons c cs ih =>
    rw [List.any_cons, Bool.or_eq_false_iff] at h
    rw [singleText_cons, singleText_cons, h.1, ih h.2]
    rfl

/-- What follows the closing quote is no quote; two of them stand for one that belongs to the
text. -/
theorem singleText_cancel (hcolumn : 0 < column) (hr : r.head? ≠ some '\'')
    (hr' : r'.head? ≠ some '\'')
    (h : singleText column false cs ++ '\'' :: r = singleText column false ds ++ '\'' :: r') :
    cs = ds ∧ r = r' := by
  have hquoted {t t' : List Char} {d : Char} {ds : List Char} (ht : t.head? ≠ some '\'') :
      '\'' :: t ≠ singleText column false (d :: ds) ++ t' := by
    intro h
    rw [singleText_cons, List.cons_append, List.cons.injEq] at h
    obtain ⟨rfl, h⟩ := h
    simp [isBreak] at h
    simp [h] at ht
  induction cs generalizing ds with
  | nil =>
    cases ds with
    | nil => exact ⟨rfl, by simpa [singleText] using h⟩
    | cons d ds => exact absurd (by simpa [singleText] using h) (hquoted hr)
  | cons c cs ih =>
    cases ds with
    | nil => exact absurd (by simpa [singleText] using h.symm) (hquoted hr')
    | cons d ds =>
      rw [singleText_cons, singleText_cons, List.cons_append, List.cons_append,
        List.cons.injEq] at h
      obtain ⟨rfl, h⟩ := h
      suffices hrest : singleText column false cs ++ '\'' :: r =
          singleText column false ds ++ '\'' :: r' by
        obtain ⟨rfl, rfl⟩ := ih hrest
        exact ⟨rfl, rfl⟩
      split at h
      · rw [singleText_broken, singleText_broken] at h
        exact indentLine_cancel hcolumn h
      · simpa using h

/-! ## Texts of several lines -/

/-- Whether a break stands before the end. -/
def endsBroken (broken : Bool) : List Char → Bool
  | [] => broken
  | c :: cs => endsBroken (isBreak c) cs

/-- A line that is not indented as far as `column`, or the end. -/
inductive Dedents (column : Nat) : List Char → Prop where
  | nil : Dedents column []
  | line {n : Nat} {c : Char} {cs : List Char} (hn : n < column) (hspace : c ≠ ' ')
      (hbreak : isBreak c = false) : Dedents column (spaces n ++ c :: cs)

/-- A line that is indented further begins with more blanks. -/
theorem spaces_ne {n m : Nat} {c : Char} (h : n < m) (hspace : c ≠ ' ') :
    spaces n ++ c :: cs ≠ spaces m ++ ds := by
  obtain ⟨k, rfl⟩ := Nat.exists_eq_add_of_lt h
  intro heq
  rw [Nat.add_assoc, spaces, spaces, List.replicate_add, List.append_assoc] at heq
  obtain ⟨rfl, -⟩ := List.cons.inj (List.append_cancel_left heq)
  exact hspace rfl

theorem Dedents.ne_indentLine (h : Dedents column r) (c : Char) (cs : List Char) :
    r ≠ indentLine column (c :: cs) := by
  intro hline
  unfold indentLine at hline
  cases h with
  | nil => split at hline <;> simp at hline
  | @line n d ds hn hspace hd =>
    split at hline
    · rename_i hbreak
      cases n with
      | zero =>
        obtain ⟨rfl, -⟩ := List.cons.inj hline
        exact absurd hbreak (by simp [hd])
      | succ n =>
        obtain ⟨rfl, -⟩ := List.cons.inj hline
        exact Bool.false_ne_true hbreak
    · exact spaces_ne hn hspace hline

theorem literalText_cons (c : Char) :
    literalText column false (c :: cs) = c :: literalText column (isBreak c) cs := by
  rw [literalText]
  by_cases hbreak : isBreak c = true <;> simp [hbreak]

theorem literalText_broken (c : Char) (r : List Char) : literalText column true (c :: cs) ++ r =
    indentLine column (literalText column false (c :: cs) ++ r) := by
  rw [literalText_cons, literalText, indentLine]
  by_cases hbreak : isBreak c = true <;> simp [hbreak]

/-- Lines that go on are not those after the text. -/
theorem Dedents.ne_literalText (h : Dedents column r) (hds : ds ≠ []) (r' : List Char) :
    r ≠ literalText column true ds ++ r' := by
  obtain ⟨d, ds, rfl⟩ := List.exists_cons_of_ne_nil hds
  rw [literalText_broken, literalText_cons, List.cons_append]
  exact h.ne_indentLine d _

theorem literalText_nil_cancel {d : Char} (hr : Dedents column r)
    (hends : endsBroken broken [] = endsBroken broken (d :: ds)) :
    literalText column broken [] ++ r ≠ literalText column broken (d :: ds) ++ r' := by
  cases broken with
  | true => exact hr.ne_literalText (List.cons_ne_nil d ds) r'
  | false =>
    intro h
    rw [literalText_cons] at h
    obtain ⟨rfl, hrest⟩ := List.cons.inj h
    cases ds with
    | nil => exact Bool.false_ne_true hends
    | cons d ds => exact hr.ne_literalText (List.cons_ne_nil d ds) r' hrest

/-- The text ends where the lines are no longer indented as far, and the hints tell whether the last
break belongs to it. -/
theorem literalText_cancel (hcolumn : 0 < column) (hr : Dedents column r)
    (hr' : Dedents column r') (hends : endsBroken broken cs = endsBroken broken ds)
    (h : literalText column broken cs ++ r = literalText column broken ds ++ r') :
    cs = ds ∧ r = r' := by
  induction cs generalizing ds broken with
  | nil =>
    cases ds with
    | nil => exact ⟨rfl, List.append_cancel_left h⟩
    | cons d ds => exact absurd h (literalText_nil_cancel hr hends)
  | cons c cs ih =>
    cases ds with
    | nil => exact absurd h.symm (literalText_nil_cancel hr' hends.symm)
    | cons d ds =>
      have hlines : literalText column false (c :: cs) ++ r =
          literalText column false (d :: ds) ++ r' := by
        cases broken with
        | false => exact h
        | true =>
          rw [literalText_broken, literalText_broken] at h
          exact indentLine_cancel hcolumn h
      rw [literalText_cons, literalText_cons] at hlines
      obtain ⟨rfl, hrest⟩ := List.cons.inj hlines
      obtain ⟨rfl, rfl⟩ := ih hends hrest
      exact ⟨rfl, rfl⟩

theorem endsBroken_append (c : Char) : endsBroken broken (cs ++ [c]) = isBreak c := by
  induction cs generalizing broken with
  | nil => rfl
  | cons _ _ ih => exact ih

theorem dash_mem_literalHints (h : cs ≠ []) :
    '-' ∈ Pen.literalHints cs ↔ endsBroken true cs = false := by
  obtain ⟨cs, c, rfl⟩ : ∃ ds d, cs = ds ++ [d] :=
    ⟨_, _, (List.dropLast_append_getLast h).symm⟩
  rw [endsBroken_append, Pen.literalHints, List.mem_append]
  have hindent (b : Bool) : '-' ∉ (if b then ['2'] else []) := by cases b <;> simp
  simp only [hindent, false_or, List.reverse_append, List.reverse_cons, List.reverse_nil,
    List.nil_append, List.singleton_append]
  cases hbreak : isBreak c with
  | false => simp
  | true => cases cs.reverse with
    | nil => simp
    | cons d ds => cases hd : isBreak d <;> simp [hd]

theorem break_notMem_literalHints (cs : List Char) : '\n' ∉ Pen.literalHints cs := by
  unfold Pen.literalHints
  rw [List.mem_append, not_or]
  constructor
  · split <;> simp
  · repeat' split
    all_goals simp

/-! ## Texts in double quotes -/

/-- Each letter of an escape stands for one character, and none of them announces digits. -/
theorem exists_escapeLetters : ∃ table : List (Nat × Char),
    (∀ c, Pen.escapeLetter? c = table.lookup c.toNat) ∧ (table.map (·.2)).Nodup ∧
      ∀ e ∈ table, e.2 ≠ 'x' ∧ e.2 ≠ 'u' ∧ e.2 ≠ 'U' :=
  ⟨_, fun _ => rfl, by decide, by decide⟩

theorem mem_of_lookup {table : List (Nat × Char)} {n : Nat} {l : Char}
    (h : table.lookup n = some l) : (n, l) ∈ table := by
  obtain ⟨before, after, rfl, -⟩ := List.lookup_eq_some_iff.1 h
  exact List.mem_append_right before List.mem_cons_self

theorem escapeLetter?_inj {c d l : Char} (hc : Pen.escapeLetter? c = some l)
    (hd : Pen.escapeLetter? d = some l) : c = d := by
  obtain ⟨table, hlookup, hnodup, -⟩ := exists_escapeLetters
  rw [hlookup] at hc hd
  have heq := List.inj_on_of_nodup_map hnodup (mem_of_lookup hc) (mem_of_lookup hd) rfl
  exact Char.toNat_inj.1 (congrArg Prod.fst heq)

theorem escapeLetter?_ne {c l : Char} (h : Pen.escapeLetter? c = some l) :
    l ≠ 'x' ∧ l ≠ 'u' ∧ l ≠ 'U' := by
  obtain ⟨table, hlookup, -, hletters⟩ := exists_escapeLetters
  exact hletters _ (mem_of_lookup ((hlookup c).symm.trans h))

/-- The ways to write a character by its number: the letter that announces the digits, how many
digits there are besides the first, and which characters are written so. -/
inductive Numbered (c : Char) : Char → Nat → Prop where
  | octet (h : c.toNat ≤ 0xff) : Numbered c 'x' 1
  | short (hlow : 0xff < c.toNat) (h : c.toNat ≤ 0xffff) : Numbered c 'u' 3
  | long (hlow : 0xffff < c.toNat) : Numbered c 'U' 7

/-- An escape is a letter of its own or a number. -/
theorem escaped_cases (c : Char) :
    (∃ l, Pen.escapeLetter? c = some l ∧ Pen.escaped c = ['\\', l]) ∨
      ∃ l width, Numbered c l width ∧
        Pen.escaped c = '\\' :: l :: (Text.hexPadded (width + 1) c.toNat).map Char.toUpper := by
  unfold Pen.escaped
  cases hletter : Pen.escapeLetter? c with
  | some l => exact .inl ⟨l, rfl, rfl⟩
  | none =>
    refine .inr ?_
    dsimp only
    split
    · exact ⟨'x', 1, .octet ‹_›, rfl⟩
    · split
      · exact ⟨'u', 3, .short (Nat.not_le.1 ‹_›) ‹_›, rfl⟩
      · exact ⟨'U', 7, .long (Nat.not_le.1 ‹_›), rfl⟩

theorem Numbered.lt {c l : Char} {width : Nat} (h : Numbered c l width) :
    c.toNat < 16 ^ (width + 1) := by
  cases h with
  | octet h => exact Nat.lt_succ_of_le h
  | short _ h => exact Nat.lt_succ_of_le h
  | long => exact c.val.toNat_lt

/-- The letter tells how many digits there are. -/
theorem Numbered.width_eq {c d l : Char} {width width' : Nat} (hc : Numbered c l width)
    (hd : Numbered d l width') : width = width' := by
  cases hc <;> cases hd <;> rfl

theorem Numbered.letter {c d l : Char} {width : Nat} (hc : Numbered c l width) :
    Pen.escapeLetter? d ≠ some l := by
  intro hd
  obtain ⟨hx, hu, hlong⟩ := escapeLetter?_ne hd
  cases hc <;> contradiction

theorem escaped_cancel {c d : Char} (h : Pen.escaped c ++ r = Pen.escaped d ++ r') :
    c = d ∧ r = r' := by
  rcases escaped_cases c with ⟨l, hl, hc⟩ | ⟨l, width, hl, hc⟩ <;>
    rcases escaped_cases d with ⟨m, hm, hd⟩ | ⟨m, width', hm, hd⟩ <;>
    rw [hc, hd] at h <;> obtain ⟨rfl, hrest⟩ := List.cons.inj (List.cons.inj h).2
  · exact ⟨escapeLetter?_inj hl hm, hrest⟩
  · exact absurd hl hm.letter
  · exact absurd hm hl.letter
  · obtain rfl := hl.width_eq hm
    obtain ⟨heq, hr⟩ := Text.hexPadded_cancel Text.digit?_toUpper hl.lt hm.lt hrest
    exact ⟨Char.toNat_inj.1 heq, hr⟩

/-- A character stands for itself or is escaped, and a quote never does the former. -/
theorem doubleQuotedChar_cases (c : Char) : Pen.doubleQuotedChar c = Pen.escaped c ∨
    Pen.doubleQuotedChar c = [c] ∧ c ≠ '"' ∧ c ≠ '\\' := by
  unfold Pen.doubleQuotedChar
  split
  · exact .inl rfl
  · rename_i h
    simp only [Bool.or_eq_true, beq_iff_eq, not_or] at h
    exact .inr ⟨rfl, h.1.2, h.2⟩

theorem exists_escaped (c : Char) : ∃ t, Pen.escaped c = '\\' :: t := by
  rcases escaped_cases c with ⟨l, -, hc⟩ | ⟨l, width, -, hc⟩
  · exact ⟨_, hc⟩
  · exact ⟨_, hc⟩

theorem doubleQuotedChar_cancel {c d : Char}
    (h : Pen.doubleQuotedChar c ++ r = Pen.doubleQuotedChar d ++ r') : c = d ∧ r = r' := by
  obtain ⟨t, ht⟩ := exists_escaped c
  obtain ⟨t', ht'⟩ := exists_escaped d
  rcases doubleQuotedChar_cases c with hc | ⟨hc, -, hback⟩ <;>
    rcases doubleQuotedChar_cases d with hd | ⟨hd, -, hback'⟩ <;> rw [hc, hd] at h
  · exact escaped_cancel h
  · rw [ht] at h
    exact absurd (List.cons.inj h).1.symm hback'
  · rw [ht'] at h
    exact absurd (List.cons.inj h).1 hback
  · exact List.cons.inj h

theorem head_doubleQuotedChar (c : Char) (r r' : List Char) :
    '"' :: r ≠ Pen.doubleQuotedChar c ++ r' := by
  obtain ⟨t, ht⟩ := exists_escaped c
  rcases doubleQuotedChar_cases c with hc | ⟨hc, hquote, -⟩
  · rw [hc, ht]
    intro h
    cases (List.cons.inj h).1
  · rw [hc]
    exact fun h => hquote (List.cons.inj h).1.symm

theorem doubleText_cancel (h : cs.flatMap Pen.doubleQuotedChar ++ '"' :: r =
    ds.flatMap Pen.doubleQuotedChar ++ '"' :: r') : cs = ds ∧ r = r' := by
  induction cs generalizing ds with
  | nil =>
    cases ds with
    | nil => exact ⟨rfl, (List.cons.inj h).2⟩
    | cons d ds =>
      rw [List.flatMap_cons, List.append_assoc] at h
      exact absurd h (head_doubleQuotedChar d _ _)
  | cons c cs ih =>
    cases ds with
    | nil =>
      rw [List.flatMap_cons, List.append_assoc] at h
      exact absurd h.symm (head_doubleQuotedChar c _ _)
    | cons d ds =>
      rw [List.flatMap_cons, List.flatMap_cons, List.append_assoc, List.append_assoc] at h
      obtain ⟨rfl, hrest⟩ := doubleQuotedChar_cancel h
      obtain ⟨rfl, rfl⟩ := ih hrest
      exact ⟨rfl, rfl⟩

/-! ## Plain texts -/

/-- What may follow a token: the end of the line, or the colon of a key. -/
inductive Follows : List Char → Prop where
  | line (r : List Char) : Follows ('\n' :: r)
  | colon {c : Char} (r : List Char) (hc : c = ' ' ∨ c = '\n') : Follows (':' :: c :: r)

/-- A text that stands for itself. -/
structure StandsPlain (cs : List Char) : Prop where
  ne_nil : cs ≠ []
  oneLine : '\n' ∉ cs
  head : ∀ c, cs.head? = some c → c ≠ ' ' ∧ isBreak c = false
  noIndicator : hasIndicator none cs = false

theorem colon_of_hasIndicator {before : Option Char}
    (h : hasIndicator before (':' :: cs) = false) : endsWord cs.head? = false := by
  rw [hasIndicator, Bool.or_eq_false_iff] at h
  cases before with
  | none => simpa [isIndicator] using h.1
  | some _ => simpa [isIndicator] using h.1

theorem plain_nil_ne {d : Char} {before : Option Char} (hr : Follows r) (hline : '\n' ∉ d :: ds)
    (hds : hasIndicator before (d :: ds) = false) : r ≠ d :: ds ++ r' := by
  intro h
  cases hr with
  | line =>
    obtain ⟨rfl, -⟩ := List.cons.inj h
    exact hline List.mem_cons_self
  | @colon c _ hc =>
    obtain ⟨rfl, hrest⟩ := List.cons.inj h
    have hend := colon_of_hasIndicator hds
    cases ds with
    | nil => exact Bool.false_ne_true hend.symm
    | cons e ds =>
      obtain ⟨rfl, -⟩ := List.cons.inj hrest
      rcases hc with rfl | rfl <;> exact Bool.false_ne_true hend.symm

theorem plain_cancel {before : Option Char} (hcs : hasIndicator before cs = false)
    (hds : hasIndicator before ds = false) (hline : '\n' ∉ cs) (hline' : '\n' ∉ ds)
    (hr : Follows r) (hr' : Follows r') (h : cs ++ r = ds ++ r') : cs = ds ∧ r = r' := by
  induction cs generalizing ds before with
  | nil =>
    cases ds with
    | nil => exact ⟨rfl, h⟩
    | cons d ds => exact absurd h (plain_nil_ne hr hline' hds)
  | cons c cs ih =>
    cases ds with
    | nil => exact absurd h.symm (plain_nil_ne hr' hline hcs)
    | cons d ds =>
      obtain ⟨rfl, hrest⟩ := List.cons.inj h
      rw [hasIndicator, Bool.or_eq_false_iff] at hcs hds
      obtain ⟨rfl, rfl⟩ := ih hcs.2 hds.2 (fun hc => hline (List.mem_cons_of_mem c hc))
        (fun hd => hline' (List.mem_cons_of_mem c hd)) hrest
      exact ⟨rfl, rfl⟩

/-! ## Tokens -/

/-- The mark that a line begins with, if it begins with one. -/
def opening : List Char → Option Char
  | [] => none
  | c :: cs =>
    if c = '-' ∨ c = '?' then if cs.head? = some ' ' then some c else none
    else if c ∈ ['|', '\'', '"', '[', '{'] then some c else none

namespace Token

def mark? : Token → Option Char
  | plain _ => none
  | singleQuoted _ => some '\''
  | doubleQuoted _ => some '"'
  | noItems => some '['
  | noEntries => some '{'

/-- A token of which the plain text, if it has one, stands for itself. -/
inductive Sound : Token → Prop where
  | plain {cs : List Char} (h : StandsPlain cs) : Sound (plain cs)
  | singleQuoted (cs : List Char) : Sound (singleQuoted cs)
  | doubleQuoted (cs : List Char) : Sound (doubleQuoted cs)
  | noItems : Sound noItems
  | noEntries : Sound noEntries

/-- A plain text does not begin as anything else does. -/
theorem opening_plain (h : StandsPlain cs) (r : List Char) : opening (cs ++ r) = none := by
  obtain ⟨c, cs, rfl⟩ := List.exists_cons_of_ne_nil h.ne_nil
  have hfirst := h.noIndicator
  rw [hasIndicator, Bool.or_eq_false_iff, isIndicator, if_pos Option.isNone_none,
    Bool.or_eq_false_iff] at hfirst
  obtain ⟨⟨hmark, hword⟩, -⟩ := hfirst
  rw [List.cons_append, opening]
  split
  · rename_i hc
    have hend : endsWord cs.head? = false := by
      rcases hc with rfl | rfl <;> simpa using hword
    cases cs with
    | nil => exact absurd hend (by decide)
    | cons d cs =>
      have hd : d ≠ ' ' := by
        rintro rfl
        exact Bool.false_ne_true hend.symm
      rw [if_neg (by simpa using hd)]
  · refine if_neg fun hmem => ?_
    simp only [List.mem_cons, List.not_mem_nil, or_false] at hmem
    rcases hmem with rfl | rfl | rfl | rfl | rfl <;> exact absurd hmark (by decide)

theorem opening_text {t : Token} (h : t.Sound) (column : Nat) (r : List Char) :
    opening (t.text column ++ r) = t.mark? := by
  cases h with
  | plain h => exact opening_plain h r
  | _ => rfl

/-- The character that a token begins with ends no word. -/
theorem head_text {t : Token} (h : t.Sound) (column : Nat) :
    ∃ c cs, t.text column = c :: cs ∧ c ≠ ' ' ∧ isBreak c = false := by
  cases h with
  | plain h =>
    obtain ⟨c, cs, rfl⟩ := List.exists_cons_of_ne_nil h.ne_nil
    exact ⟨c, cs, rfl, h.head c rfl⟩
  | _ => exact ⟨_, _, rfl, by decide, rfl⟩

theorem cancel {t t' : Token} (hcolumn : 0 < column) (ht : t.Sound) (ht' : t'.Sound)
    (hr : Follows r) (hr' : Follows r') (h : t.text column ++ r = t'.text column ++ r') :
    t = t' ∧ r = r' := by
  have hquote {t : List Char} (ht : Follows t) : t.head? ≠ some '\'' := by cases ht <;> simp
  have hmark : t.mark? = t'.mark? := by
    rw [← opening_text ht column r, ← opening_text ht' column r', h]
  cases ht with
  | @plain cs hcs =>
    cases ht' with
    | @plain ds hds =>
      obtain ⟨rfl, rfl⟩ := plain_cancel hcs.noIndicator hds.noIndicator hcs.oneLine hds.oneLine
        hr hr' h
      exact ⟨rfl, rfl⟩
    | _ => cases hmark
  | singleQuoted cs =>
    cases ht' with
    | singleQuoted ds =>
      obtain ⟨rfl, rfl⟩ := singleText_cancel hcolumn (hquote hr) (hquote hr')
        (by simpa [text] using h)
      exact ⟨rfl, rfl⟩
    | _ => cases hmark
  | doubleQuoted cs =>
    cases ht' with
    | doubleQuoted ds =>
      obtain ⟨rfl, rfl⟩ := doubleText_cancel (by simpa [text] using h)
      exact ⟨rfl, rfl⟩
    | _ => cases hmark
  | noItems =>
    cases ht' with
    | noItems => exact ⟨rfl, List.append_cancel_left h⟩
    | _ => cases hmark
  | noEntries =>
    cases ht' with
    | noEntries => exact ⟨rfl, List.append_cancel_left h⟩
    | _ => cases hmark

theorem sound_ofStyle (s : String) (isKey : Bool) : (ofStyle s (style s isKey)).Sound := by
  cases hstyle : style s isKey with
  | plain =>
    obtain ⟨hline, hhead, hnone⟩ := traits_of_plain hstyle
    refine .plain ⟨ne_nil_of_plain hstyle, fun hmem => ?_, fun c hc => ?_, hnone⟩
    · exact absurd (List.any_eq_false.1 hline _ hmem) (by decide)
    · simpa [hc] using hhead
  | singleQuoted => exact .singleQuoted _
  | doubleQuoted => exact .doubleQuoted _
  | literal => exact .doubleQuoted _

theorem text_of_noBreak {s : String} (h : s.toList.any isBreak = false) (how : Style)
    (column column' : Nat) : (ofStyle s how).text column = (ofStyle s how).text column' := by
  cases how with
  | singleQuoted => simp only [ofStyle, text, singleText_of_noBreak h column column']
  | _ => rfl

/-- The characters that a token stands for. -/
def characters : Token → List Char
  | plain cs => cs
  | singleQuoted cs => cs
  | doubleQuoted cs => cs
  | _ => []

theorem characters_ofStyle (s : String) (how : Style) : (ofStyle s how).characters = s.toList := by
  cases how <;> rfl

theorem ofStyle_inj {s s' : String} {how how' : Style} (h : ofStyle s how = ofStyle s' how') :
    s = s' := by
  refine String.toList_inj.1 ?_
  rw [← characters_ofStyle s how, h, characters_ofStyle]

end Token

end GridOperator.Yaml
