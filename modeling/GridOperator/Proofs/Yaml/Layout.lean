import GridOperator.Proofs.Json.RoundTrip
import GridOperator.Yaml.Writer

/-!
# The layout of written documents

The pen writes character by character and looks back at what stands before its place.
Here the same text is a function of the document: `valueText` is the text of a value
together with the break that ends its last line. It depends on the column of the
collection that the value is in, and on whether the line of its mark is still free.
-/

namespace GridOperator.Yaml

def spaces (n : Nat) : List Char := List.replicate n ' '

/-! ## Scalars -/

/-- The characters between single quotes; `broken` tells that a break stands before them. -/
def singleText (column : Nat) (broken : Bool) : List Char → List Char
  | [] => if broken then spaces column else []
  | c :: cs =>
    if isBreak c then c :: singleText column true cs
    else (if broken then spaces column else []) ++
      ((if c = '\'' then ['\'', '\''] else [c]) ++ singleText column false cs)

/-- The lines of a text of several lines; `broken` tells that a line begins before them. -/
def literalText (column : Nat) (broken : Bool) : List Char → List Char
  | [] => if broken then [] else ['\n']
  | c :: cs =>
    if isBreak c then c :: literalText column true cs
    else (if broken then spaces column else []) ++ c :: literalText column false cs

/-- What stands on one line between the marks. -/
inductive Token where
  | plain (cs : List Char)
  | singleQuoted (cs : List Char)
  | doubleQuoted (cs : List Char)
  | noItems
  | noEntries

namespace Token

/-- The text of a token whose further lines, if it has breaks in it, begin at `column`. -/
def text (column : Nat) : Token → List Char
  | plain cs => cs
  | singleQuoted cs => '\'' :: (singleText column false cs ++ ['\''])
  | doubleQuoted cs => '"' :: (cs.flatMap Pen.doubleQuotedChar ++ ['"'])
  | noItems => ['[', ']']
  | noEntries => ['{', '}']

/-- The token for a text that is not written line by line. -/
def ofStyle (s : String) : Style → Token
  | .plain => plain s.toList
  | .singleQuoted => singleQuoted s.toList
  | _ => doubleQuoted s.toList

end Token

/-- The token that a value is written as, if it is written as one. -/
def token? : Yaml → Option Token
  | .str s => if style s false = .literal then none else some (.ofStyle s (style s false))
  | .int n => some (.plain (toString n).toList)
  | .bool b => some (.plain (toString b).toList)
  | .seq [] => some .noItems
  | .map [] => some .noEntries
  | _ => none

/-- The text of a scalar, the break at its end included. -/
def scalarText (column : Nat) (s : String) : List Char :=
  if style s false = .literal then
    '|' :: (Pen.literalHints s.toList ++ '\n' :: literalText column true s.toList)
  else (Token.ofStyle s (style s false)).text column ++ ['\n']

/-! ## Entries -/

/-- Whether a key has marks of its own. -/
def isLongKey (s : String) : Bool := 128 < s.utf8ByteSize || s.toList.any isBreak

/-- A key with its colon. -/
def keyText (column : Nat) (s : String) : List Char :=
  if isLongKey s then
    '?' :: ' ' :: (scalarText (column + 2) s ++ (spaces column ++ [':']))
  else (Token.ofStyle s (style s true)).text (column + 2) ++ [':']

/-- What stands before the first entry of a collection: a blank on a line that is still free, and
else a line of its own. -/
def leadIn (column : Nat) (free : Bool) : List Char := if free then [' '] else '\n' :: spaces column

mutual

/-- A value of a collection whose entries begin at `column`; `free` tells that the line may hold an
entry yet. -/
def valueText (column : Nat) (free : Bool) : Yaml → List Char
  | .str s => ' ' :: scalarText (column + 2) s
  | .int n => ' ' :: ((toString n).toList ++ ['\n'])
  | .bool b => ' ' :: ((toString b).toList ++ ['\n'])
  | .seq [] => ' ' :: (Token.noItems.text column ++ ['\n'])
  | .seq (x :: xs) =>
    let start := if free then column + 2 else column
    itemsText start (leadIn start free) (x :: xs)
  | .map [] => ' ' :: (Token.noEntries.text column ++ ['\n'])
  | .map (e :: es) => entriesText (column + 2) (leadIn (column + 2) free) (e :: es)

/-- Items that begin at `column`, the first one after `lead`. -/
def itemsText (column : Nat) (lead : List Char) : List Yaml → List Char
  | [] => []
  | x :: xs => lead ++ '-' :: (valueText column true x ++ itemsText column (spaces column) xs)

/-- Entries that begin at `column`, the first one after `lead`. -/
def entriesText (column : Nat) (lead : List Char) : List (String × Yaml) → List Char
  | [] => []
  | (k, v) :: es => lead ++ (keyText column k ++
      (valueText column (isLongKey k) v ++ entriesText column (spaces column) es))

end

theorem valueText_eq_of_token {v : Yaml} {t : Token} (h : v.token? = some t) (column : Nat)
    (free : Bool) : valueText column free v = ' ' :: (t.text (column + 2) ++ ['\n']) := by
  unfold token? at h
  split at h
  · split at h
    · cases h
    · rename_i hstyle
      cases h
      rw [valueText, scalarText, if_neg hstyle]
  all_goals cases h
  all_goals rw [valueText]; rfl

/-! ## What the styles say of a text -/

variable {s : String} {isKey : Bool}

theorem style_eq_plain (h : style s isKey = .plain) :
    (Traits.of s.toList).plain = true ∧ resolves s = false := by
  simp only [style] at h
  split at h
  · split at h <;> cases h
  · split at h
    · simpa using ‹(Traits.of s.toList).plain && !resolves s›
    · split at h <;> cases h

theorem style_eq_singleQuoted (h : style s isKey = .singleQuoted) :
    (Traits.of s.toList).singleQuoted = true := by
  simp only [style] at h
  split at h
  · split at h <;> cases h
  · split at h
    · cases h
    · split at h
      · rename_i hquoted
        simp only [Bool.and_eq_true] at hquoted
        exact hquoted.1
      · cases h

theorem style_eq_literal (h : style s isKey = .literal) : isKey = false ∧ '\n' ∈ s.toList := by
  simp only [style] at h
  split at h
  · rename_i hline
    split at h
    · rename_i hliteral
      simp only [Bool.and_eq_true, Bool.not_eq_true'] at hliteral
      exact ⟨hliteral.2, by simpa using hline⟩
    · cases h
  · split at h
    · cases h
    · split at h <;> cases h

theorem style_key_ne_literal (s : String) : style s true ≠ .literal :=
  fun h => Bool.false_ne_true (style_eq_literal h).1.symm

theorem ne_nil_of_plain (h : style s isKey = .plain) : s.toList ≠ [] := by
  intro hnil
  have hempty : s = "" := String.toList_eq_nil_iff.1 hnil
  exact absurd (style_eq_plain h).2 (by rw [hempty]; decide)

/-- A plain text stays on its line and does not begin with a blank, and nothing in it has a meaning
of its own. -/
theorem traits_of_plain (h : style s isKey = .plain) : s.toList.any isBreak = false ∧
    (s.toList.head?.any fun c => c == ' ' || isBreak c) = false ∧
      hasIndicator none s.toList = false := by
  have hplain := (style_eq_plain h).1
  have hne : s.toList.isEmpty = false := List.isEmpty_eq_false_iff.2 (ne_nil_of_plain h)
  simp only [Traits.of, hne, Bool.false_eq_true, if_false, Bool.and_eq_true, Bool.not_eq_true']
    at hplain
  obtain ⟨⟨⟨⟨⟨-, hline⟩, hhead⟩, -⟩, -⟩, hnone⟩ := hplain
  exact ⟨hline, hhead, hnone⟩

theorem adjacent_of_singleQuoted (h : style s isKey = .singleQuoted) :
    adjacent isBreak (· == ' ') s.toList = false := by
  have hquoted := style_eq_singleQuoted h
  cases hne : s.toList.isEmpty with
  | true => rw [List.isEmpty_iff.1 hne]; rfl
  | false =>
    simp only [Traits.of, hne, Bool.false_eq_true, if_false, Bool.not_eq_true',
      Bool.or_eq_false_iff] at hquoted
    exact hquoted.1.1

/-! ## The induction over documents -/

/-- What holds of a list and of entries as soon as it holds of all that is in them holds of every
document. -/
@[elab_as_elim]
theorem nested {P : Yaml → Prop} (str : ∀ s, P (.str s)) (int : ∀ n, P (.int n))
    (bool : ∀ b, P (.bool b)) (seq : ∀ xs, (∀ x ∈ xs, P x) → P (.seq xs))
    (map : ∀ es, (∀ e ∈ es, P e.2) → P (.map es)) : ∀ v, P v :=
  Yaml.rec str int bool (fun xs => seq xs) (fun es => map es)
    (fun _ h => absurd h List.not_mem_nil)
    (fun _ _ hx hxs _ h => (List.mem_cons.1 h).elim (fun e => e ▸ hx) (hxs _))
    (fun _ h => absurd h List.not_mem_nil)
    (fun _ _ he hes _ h => (List.mem_cons.1 h).elim (fun e => e ▸ he) (hes _))
    (fun _ _ hv => hv)

/-! ## What the pen writes -/

namespace Pen

variable {p : Pen} {column : Nat} {cs : List Char} {broken : Bool}

/-- What is written, from its beginning. -/
def said (p : Pen) : List Char := p.written.reverse

/-- What is written with the last line ended. -/
def ended (p : Pen) : List Char := p.said ++ if p.fresh then [] else ['\n']

/-- The place after a value: the line is in use, or the next one has been begun. -/
def AfterValue (p : Pen) : Prop := p.fresh = true → p.column = 0 ∧ p.spaced = true

/-- The place after the mark of an entry or after a key. -/
def AfterMark (column : Nat) (p : Pen) : Prop :=
  p.spaced = false ∧ (p.fresh = true → p.column = column + 1)

theorem puts_eq (cs : List Char) (p : Pen) :
    p.puts cs = { p with written := cs.reverse ++ p.written, column := p.column + cs.length } := by
  induction cs generalizing p with
  | nil => rfl
  | cons c cs ih =>
    show (p.put c).puts cs = _
    rw [ih]
    simp [put, Nat.add_assoc, Nat.add_comm 1]

theorem said_put (c : Char) (p : Pen) : (p.put c).said = p.said ++ [c] := by
  simp [said, put]

theorem said_puts (cs : List Char) (p : Pen) : (p.puts cs).said = p.said ++ cs := by
  simp [puts_eq, said]

/-- What `indent` writes. -/
def lead (column : Nat) (p : Pen) : List Char :=
  if !p.fresh || column < p.column || (p.column == column && !p.spaced) then '\n' :: spaces column
  else spaces (column - p.column)

theorem indent_eq (column : Nat) (p : Pen) :
    p.indent column = ⟨(p.lead column).reverse ++ p.written, column, true, true⟩ := by
  unfold indent lead
  split
  · simp [puts_eq, lineBreak, spaces]
  · rename_i h
    have hle : p.column ≤ column := by
      simp only [Bool.or_eq_true, decide_eq_true_eq, not_or] at h
      omega
    simp [puts_eq, spaces, Nat.add_sub_cancel' hle]

theorem said_indent (column : Nat) (p : Pen) :
    (p.indent column).said = p.said ++ p.lead column := by
  simp [indent_eq, said]

theorem AfterValue.said_lead (h : p.AfterValue) (column : Nat) :
    p.said ++ p.lead column = p.ended ++ spaces column := by
  unfold ended lead
  cases hfresh : p.fresh with
  | false => simp
  | true =>
    obtain ⟨hcolumn, hspaced⟩ := h hfresh
    simp [hcolumn, hspaced]

theorem AfterMark.lead_eq {start : Nat} (h : p.AfterMark column)
    (hstart : p.fresh = true → start = column + 2) : p.lead start = leadIn start p.fresh := by
  unfold lead leadIn
  cases hfresh : p.fresh with
  | false => simp
  | true =>
    have hcolumn := h.2 hfresh
    have hshort : ¬ column + 2 < column + 1 := by omega
    simp [hstart hfresh, hcolumn, hshort, spaces]

/-! ### Scalars -/

theorem adjacent_cons {p q : Char → Bool} {c : Char} {cs : List Char} :
    adjacent p q (c :: cs) = false ↔
      (p c = true → ∀ d, cs.head? = some d → q d = false) ∧ adjacent p q cs = false := by
  cases cs with
  | nil => simp [adjacent]
  | cons d cs => simp [adjacent]

/-- What `indent` writes where a text has been broken, at the start of a line. -/
theorem said_broken (hfresh : p.fresh = broken) (hbroken : broken = true → p.column = 0)
    (hspaced : 0 < column ∨ p.spaced = true) : (if broken then p.indent column else p).said =
      p.said ++ if broken then spaces column else [] := by
  cases broken with
  | false => simp
  | true =>
    rw [if_pos rfl, if_pos rfl, said_indent]
    congr 1
    unfold lead
    rcases hspaced with hpos | hspaced
    · simp [hfresh, hbroken rfl, Nat.ne_of_lt hpos]
    · simp [hfresh, hbroken rfl, hspaced]

/-- No blank follows a break in a text in single quotes, so that the blanks after a break are those
of the indentation. -/
theorem said_singleQuotedChars (hcolumn : 0 < column)
    (hcs : adjacent isBreak (· == ' ') cs = false) (hfresh : p.fresh = broken)
    (hbroken : broken = true → p.column = 0 ∧ cs.head? ≠ some ' ') :
    (singleQuotedChars column broken cs p).said = p.said ++ singleText column broken cs := by
  induction cs generalizing p broken with
  | nil => exact said_broken hfresh (fun h => (hbroken h).1) (.inl hcolumn)
  | cons c cs ih =>
    obtain ⟨hhead, hrest⟩ := adjacent_cons.1 hcs
    have hnext (q : Pen) (b : Bool) (hq : q.fresh = b)
        (hb : b = true → q.column = 0 ∧ cs.head? ≠ some ' ') :
        (singleQuotedChars column b cs q).said = q.said ++ singleText column b cs := ih hrest hq hb
    unfold singleQuotedChars singleText
    by_cases hspace : c = ' '
    · have hfalse : broken = false := by
        cases broken with
        | false => rfl
        | true => exact absurd (congrArg some hspace) (hbroken rfl).2
      subst hspace hfalse
      rw [if_pos (show (' ' == ' ') = true from rfl), hnext (p.put ' ') false hfresh (by simp),
        said_put]
      simp [isBreak]
    · rw [if_neg (by simpa using hspace)]
      by_cases hbreak : isBreak c = true
      · have hbare : cs.head? ≠ some ' ' := fun h => by simpa using hhead hbreak ' ' h
        rw [if_pos hbreak, if_pos hbreak,
          hnext { p.lineBreak c with fresh := true } true rfl fun _ => ⟨rfl, hbare⟩]
        simp [said, lineBreak]
      · have hput (q : Pen) : (if c == '\'' then (q.put c).put c else q.put c).said =
            q.said ++ if c = '\'' then ['\'', '\''] else [c] := by
          by_cases hquote : c = '\'' <;> simp [hquote, said_put]
        have hsaid := said_broken hfresh (fun h => (hbroken h).1) (.inl hcolumn)
        rw [if_neg hbreak, if_neg hbreak]
        dsimp only
        rw [hnext _ false rfl (by simp)]
        show Pen.said (if c == '\'' then _ else _) ++ _ = _
        rw [hput, hsaid]
        simp

theorem ended_literalChars (hspaced : p.spaced = true) (hfresh : p.fresh = broken)
    (hbroken : broken = true → p.column = 0) :
    (literalChars column broken cs p).AfterValue ∧
      (literalChars column broken cs p).ended = p.said ++ literalText column broken cs := by
  induction cs generalizing p broken with
  | nil =>
    unfold literalChars literalText ended
    exact ⟨fun h => ⟨hbroken (hfresh ▸ h), hspaced⟩, by rw [hfresh]⟩
  | cons c cs ih =>
    have hnext (q : Pen) (b : Bool) (hq : q.spaced = true) (hfresh : q.fresh = b)
        (hb : b = true → q.column = 0) : (literalChars column b cs q).AfterValue ∧
          (literalChars column b cs q).ended = q.said ++ literalText column b cs := ih hq hfresh hb
    unfold literalChars literalText
    by_cases hbreak : isBreak c = true
    · obtain ⟨hafter, hended⟩ :=
        hnext { p.lineBreak c with fresh := true } true hspaced rfl fun _ => rfl
      rw [if_pos hbreak, if_pos hbreak]
      exact ⟨hafter, hended.trans (by simp [said, lineBreak])⟩
    · have hblank : (if broken then p.indent column else p).spaced = true := by
        cases broken with
        | false => exact hspaced
        | true => rw [if_pos rfl, indent_eq]
      obtain ⟨hafter, hended⟩ :=
        hnext { (if broken then p.indent column else p).put c with fresh := false } false hblank rfl
          (by simp)
      rw [if_neg hbreak, if_neg hbreak]
      refine ⟨hafter, hended.trans ?_⟩
      show ((if broken then p.indent column else p).put c).said ++ _ = _
      rw [said_put, said_broken hfresh hbroken (.inr hspaced)]
      simp

theorem mark_eq (cs : List Char) (needsSpace leavesSpace opens : Bool) (p : Pen) :
    p.mark cs needsSpace leavesSpace opens =
      ⟨cs.reverse ++ ((if needsSpace && !p.spaced then [' '] else []) ++ p.written),
        p.column + (if needsSpace && !p.spaced then 1 else 0) + cs.length, leavesSpace,
        p.fresh && opens⟩ := by
  unfold mark
  cases needsSpace && !p.spaced <;> simp [puts_eq, put]

/-- What stands before a text or a mark that needs a blank. -/
def gap (p : Pen) : List Char := if p.spaced then [] else [' ']

theorem said_mark (cs : List Char) (leavesSpace opens : Bool) (p : Pen) :
    (p.mark cs true leavesSpace opens).said = p.said ++ (p.gap ++ cs) := by
  cases hspaced : p.spaced <;> simp [mark_eq, said, gap, hspaced]

theorem said_mark_close (cs : List Char) (leavesSpace opens : Bool) (p : Pen) :
    (p.mark cs false leavesSpace opens).said = p.said ++ cs := by
  simp [mark_eq, said]

/-- A text on one line. -/
theorem said_text {s : String} {isKey : Bool} (hcolumn : 0 < column)
    (hstyle : style s isKey ≠ .literal) :
    (p.text column s isKey).said =
        p.said ++ (p.gap ++ (Token.ofStyle s (style s isKey)).text column) ∧
      (p.text column s isKey).spaced = false ∧ (p.text column s isKey).fresh = false := by
  unfold text
  cases hs : style s isKey with
  | literal => exact absurd hs hstyle
  | plain =>
    have hne := ne_nil_of_plain hs
    unfold plain
    refine ⟨?_, rfl, rfl⟩
    show Pen.said (Pen.puts _ _) = _
    rw [said_puts]
    cases hspaced : p.spaced <;> simp [gap, hspaced, hne, Token.ofStyle, Token.text, said, put]
  | singleQuoted =>
    unfold singleQuoted
    refine ⟨?_, by rw [mark_eq], by rw [mark_eq, Bool.and_false]⟩
    rw [said_mark_close, said_singleQuotedChars hcolumn (adjacent_of_singleQuoted hs)
      (by rw [mark_eq, Bool.and_false])
      (by simp), said_mark]
    simp [Token.ofStyle, Token.text]
  | doubleQuoted =>
    unfold doubleQuoted
    refine ⟨?_, by rw [mark_eq], by rw [mark_eq, Bool.and_false]⟩
    rw [said_mark_close, said_puts, said_mark]
    simp [Token.ofStyle, Token.text]

theorem ended_of_not_fresh (h : p.fresh = false) : p.AfterValue ∧ p.ended = p.said ++ ['\n'] :=
  ⟨fun hfresh => absurd (h.symm.trans hfresh) Bool.false_ne_true, by simp [ended, h]⟩

/-- A text as a value, after a mark or a key. -/
theorem ended_text {s : String} (hcolumn : 0 < column) (hspaced : p.spaced = false) :
    (p.text column s false).AfterValue ∧
      (p.text column s false).ended = p.said ++ ' ' :: scalarText column s := by
  have hgap : p.gap = [' '] := by simp [gap, hspaced]
  by_cases hstyle : style s false = .literal
  · unfold text scalarText
    rw [hstyle, if_pos rfl]
    show (literal column s.toList p).AfterValue ∧ (literal column s.toList p).ended = _
    unfold literal
    have hlines (q : Pen) : (literalChars column true s.toList
        { q.lineBreak '\n' with fresh := true, spaced := true }).AfterValue ∧
        (literalChars column true s.toList
          { q.lineBreak '\n' with fresh := true, spaced := true }).ended =
            (q.lineBreak '\n').said ++ literalText column true s.toList :=
      ended_literalChars rfl rfl fun _ => rfl
    refine ⟨(hlines _).1, (hlines _).2.trans ?_⟩
    have hbreak (q : Pen) : (q.lineBreak '\n').said = q.said ++ ['\n'] := by simp [said, lineBreak]
    rw [hbreak, said_mark_close, said_mark, hgap]
    simp
  · obtain ⟨hsaid, -, hfresh⟩ := said_text (p := p) hcolumn hstyle
    obtain ⟨hafter, hended⟩ := ended_of_not_fresh hfresh
    refine ⟨hafter, hended.trans ?_⟩
    rw [hsaid, hgap, scalarText, if_neg hstyle]
    simp

theorem ended_plain {cs : List Char} (hcs : cs ≠ []) (hspaced : p.spaced = false) :
    (p.plain cs).AfterValue ∧ (p.plain cs).ended = p.said ++ ' ' :: (cs ++ ['\n']) := by
  obtain ⟨hafter, hended⟩ := ended_of_not_fresh (show (p.plain cs).fresh = false from rfl)
  refine ⟨hafter, hended.trans ?_⟩
  unfold plain
  show Pen.said (Pen.puts _ _) ++ _ = _
  rw [said_puts]
  simp [hspaced, hcs, said, put]

/-! ### Entries -/

theorem key_eq (column : Nat) (s : String) (p : Pen) :
    (p.key column s).said = p.said ++ (p.lead column ++ keyText column s) ∧
      (p.key column s).AfterMark column ∧ (p.key column s).fresh = isLongKey s := by
  have hcolumn : 0 < column + 2 := Nat.succ_pos _
  have hgap : (p.indent column).gap = [] := by rw [indent_eq]; rfl
  unfold key keyText isLongKey
  cases hlong : (128 < s.utf8ByteSize || s.toList.any isBreak : Bool) with
  | false =>
    obtain ⟨hsaid, -, hfresh⟩ := said_text (p := p.indent column) hcolumn (style_key_ne_literal s)
    rw [if_neg Bool.false_ne_true, if_neg Bool.false_ne_true]
    refine ⟨?_, ⟨by rw [mark_eq], fun h => ?_⟩, by rw [mark_eq, Bool.and_false]⟩
    · rw [said_mark_close, hsaid, said_indent, hgap]
      simp
    · rw [mark_eq, Bool.and_false] at h
      cases h
  | true =>
    obtain ⟨hafter, hended⟩ : ((_ : Pen).text (column + 2) s false).AfterValue ∧ _ :=
      ended_text (p := (p.indent column).mark ['?'] true false true) hcolumn (by rw [mark_eq])
    rw [if_pos rfl, if_pos rfl]
    dsimp only
    refine ⟨?_, ⟨by rw [mark_eq], fun _ => by simp [mark_eq, indent_eq]⟩,
      by simp [mark_eq, indent_eq]⟩
    have hfree (q : Pen) : (q.indent column).gap = [] := by rw [indent_eq]; rfl
    rw [said_mark, hfree, said_indent, ← List.append_assoc, ← List.append_assoc,
      List.append_nil, hafter.said_lead, hended, said_mark, said_indent, hgap]
    simp

/-- A value is written as `valueText` says, wherever it may stand. -/
def Writes (v : Yaml) : Prop :=
  ∀ (column : Nat) (underKey : Bool) (p : Pen), p.AfterMark column →
    (underKey = false → p.fresh = true) → (value column underKey v p).AfterValue ∧
      (value column underKey v p).ended = p.said ++ valueText column p.fresh v

theorem ended_item {x : Yaml} (hx : Writes x) (column : Nat) (p : Pen) :
    (value column false x ((p.indent column).mark ['-'] true false true)).AfterValue ∧
      (value column false x ((p.indent column).mark ['-'] true false true)).ended =
        p.said ++ (p.lead column ++ '-' :: valueText column true x) := by
  have hgap : (p.indent column).gap = [] := by rw [indent_eq]; rfl
  have hfresh : ((p.indent column).mark ['-'] true false true).fresh = true := by
    simp [mark_eq, indent_eq]
  have hmark : ((p.indent column).mark ['-'] true false true).AfterMark column :=
    ⟨by rw [mark_eq], fun _ => by simp [mark_eq, indent_eq]⟩
  have h := hx column false _ hmark fun _ => hfresh
  rw [hfresh, said_mark, said_indent, hgap] at h
  exact ⟨h.1, h.2.trans (by simp)⟩

theorem ended_items {xs : List Yaml} (hxs : ∀ x ∈ xs, Writes x) (h : p.AfterValue) :
    (items column xs p).AfterValue ∧
      (items column xs p).ended = p.ended ++ itemsText column (spaces column) xs := by
  induction xs generalizing p with
  | nil =>
    rw [items, itemsText, List.append_nil]
    exact ⟨h, rfl⟩
  | cons x xs ih =>
    obtain ⟨hafter, hended⟩ := ended_item (hxs x List.mem_cons_self) column p
    rw [items, itemsText]
    obtain ⟨hafter', hended'⟩ := ih (fun y hy => hxs y (List.mem_cons_of_mem x hy)) hafter
    refine ⟨hafter', ?_⟩
    rw [hended', hended, ← List.append_assoc, h.said_lead]
    simp

/-- The first item of a list follows where the pen is. -/
theorem ended_items_cons {x : Yaml} {xs : List Yaml} (hxs : ∀ y ∈ x :: xs, Writes y) (p : Pen) :
    (items column (x :: xs) p).AfterValue ∧
      (items column (x :: xs) p).ended = p.said ++ itemsText column (p.lead column) (x :: xs) := by
  obtain ⟨hafter, hended⟩ := ended_item (hxs x List.mem_cons_self) column p
  obtain ⟨hafter', hended'⟩ :=
    ended_items (fun y hy => hxs y (List.mem_cons_of_mem x hy)) hafter
  rw [items, itemsText]
  exact ⟨hafter', by rw [hended', hended]; simp⟩

theorem ended_entry {v : Yaml} (hv : Writes v) (k : String) (column : Nat) (p : Pen) :
    (value column true v (p.key column k)).AfterValue ∧
      (value column true v (p.key column k)).ended =
        p.said ++ (p.lead column ++ (keyText column k ++ valueText column (isLongKey k) v)) := by
  obtain ⟨hsaid, hmark, hfresh⟩ := key_eq column k p
  have h := hv column true _ hmark (by simp)
  rw [hfresh, hsaid] at h
  exact ⟨h.1, h.2.trans (by simp)⟩

theorem ended_entries {es : List (String × Yaml)} (hes : ∀ e ∈ es, Writes e.2)
    (h : p.AfterValue) :
    (entries column es p).AfterValue ∧
      (entries column es p).ended = p.ended ++ entriesText column (spaces column) es := by
  induction es generalizing p with
  | nil =>
    rw [entries, entriesText, List.append_nil]
    exact ⟨h, rfl⟩
  | cons e es ih =>
    obtain ⟨hafter, hended⟩ := ended_entry (hes e List.mem_cons_self) e.1 column p
    rw [entries, entriesText]
    obtain ⟨hafter', hended'⟩ := ih (fun d hd => hes d (List.mem_cons_of_mem e hd)) hafter
    refine ⟨hafter', ?_⟩
    rw [hended', hended, ← List.append_assoc, h.said_lead]
    simp

/-- The first entry of a collection follows where the pen is. -/
theorem ended_entries_cons {e : String × Yaml} {es : List (String × Yaml)}
    (hes : ∀ d ∈ e :: es, Writes d.2) (p : Pen) :
    (entries column (e :: es) p).AfterValue ∧ (entries column (e :: es) p).ended =
      p.said ++ entriesText column (p.lead column) (e :: es) := by
  obtain ⟨hafter, hended⟩ := ended_entry (hes e List.mem_cons_self) e.1 column p
  obtain ⟨hafter', hended'⟩ :=
    ended_entries (fun d hd => hes d (List.mem_cons_of_mem e hd)) hafter
  rw [entries, entriesText]
  exact ⟨hafter', by rw [hended', hended]; simp⟩

theorem ended_brackets (l r : Char) (h : p.spaced = false) :
    ((p.mark [l] true true false).mark [r] false false false).AfterValue ∧
      ((p.mark [l] true true false).mark [r] false false false).ended =
        p.said ++ ' ' :: ([l, r] ++ ['\n']) := by
  obtain ⟨hafter, hended⟩ := ended_of_not_fresh
    (show ((p.mark [l] true true false).mark [r] false false false).fresh = false by
      rw [mark_eq, Bool.and_false])
  refine ⟨hafter, hended.trans ?_⟩
  rw [said_mark_close, said_mark]
  simp [gap, h]

theorem writes (v : Yaml) : Writes v := by
  induction v using nested with
  | str s =>
    intro column _ p hp _
    rw [value, valueText]
    exact ended_text (Nat.succ_pos _) hp.1
  | int n =>
    intro column _ p hp _
    rw [value, valueText]
    obtain ⟨c, cs, hcs, -⟩ := Json.head_toString n
    exact ended_plain (hcs ▸ List.cons_ne_nil c cs) hp.1
  | bool b =>
    intro column _ p hp _
    rw [value, valueText]
    exact ended_plain (by cases b <;> decide) hp.1
  | seq xs hxs =>
    intro column underKey p hp hkey
    cases xs with
    | nil =>
      rw [value, valueText]
      exact ended_brackets '[' ']' hp.1
    | cons x xs =>
      have hstart : (if underKey && !p.fresh then column else column + 2) =
          if p.fresh then column + 2 else column := by
        cases hfresh : p.fresh with
        | true => simp
        | false =>
          cases underKey with
          | true => simp
          | false => exact absurd (hkey rfl) (by simp [hfresh])
      have hlead := @AfterMark.lead_eq p column (if p.fresh then column + 2 else column) hp
        fun h => if_pos h
      rw [value, valueText, hstart, ← hlead]
      · exact ended_items_cons hxs p
      · simp
  | map es hes =>
    intro column underKey p hp _
    cases es with
    | nil =>
      rw [value, valueText]
      exact ended_brackets '{' '}' hp.1
    | cons e es =>
      rw [value, valueText, ← hp.lead_eq fun _ => rfl]
      · exact ended_entries_cons hes p
      · simp

end Pen

/-- The text of a document. -/
theorem toList_render (document : List (String × Yaml)) :
    (render document).toList = entriesText 0 [] document := by
  have hstart : Pen.AfterValue {} := fun _ => ⟨rfl, rfl⟩
  obtain ⟨hafter, hended⟩ : (Pen.entries 0 document {}).AfterValue ∧
      (Pen.entries 0 document {}).ended = Pen.ended {} ++ entriesText 0 (spaces 0) document :=
    Pen.ended_entries (fun e _ => Pen.writes e.2) hstart
  have hlast := hafter.said_lead 0
  rw [hended] at hlast
  unfold render
  rw [String.toList_ofList]
  exact (Pen.said_indent 0 _).trans (hlast.trans (by simp [spaces]; rfl))

end GridOperator.Yaml
