import GridOperator.Proofs.Yaml.Scalars

/-!
# Documents that can be told apart

The text of a document determines the document (`render_cancel`): which kind of value
stands at a place is seen from how its line begins, and where a collection ends from how
far the next line is indented. Texts that look like numbers are quoted, which holds for
all numbers that documents have (`IsBounded`).
-/

namespace GridOperator.Yaml

/-! ## Numbers -/

theorem isDigit_toDigits (k : Nat) : ∀ c ∈ Nat.toDigits 10 k, c.isDigit :=
  fun _ => Nat.isDigit_of_mem_toDigits (by omega) (by omega)

theorem toDigits_ne_cons {k : Nat} {c : Char} (hc : c.isDigit = false) (cs : List Char) :
    Nat.toDigits 10 k ≠ c :: cs := fun h =>
  Bool.false_ne_true (hc.symm.trans (isDigit_toDigits k c (h ▸ List.mem_cons_self)))

/-- No digits stand behind a zero. -/
theorem not_zeroed (k : Nat) : (decide (1 < (Nat.toDigits 10 k).length) &&
    (Nat.toDigits 10 k).head? == some '0' && (Nat.toDigits 10 k).all Char.isDigit) = false := by
  rcases Nat.eq_zero_or_pos k with rfl | hk
  · rfl
  · obtain ⟨d, ds, hd, hz⟩ := Json.head_toDigits hk
    simp [hd, hz]

theorem isZeroed_toDigits (k : Nat) : isZeroed (Nat.toDigits 10 k) = false := by
  unfold isZeroed
  dsimp only
  split
  · exact absurd ‹_› (toDigits_ne_cons rfl _)
  · exact absurd ‹_› (toDigits_ne_cons rfl _)
  · exact not_zeroed k

theorem magnitude?_toDigits (k : Nat) : magnitude? (Nat.toDigits 10 k) = some k := by
  have hne (d : Char) (ds : List Char) (hd : d.isDigit = false) :
      Nat.toDigits 10 k ≠ '0' :: d :: ds := fun h =>
    Bool.false_ne_true (hd.symm.trans (isDigit_toDigits k d (by simp [h])))
  unfold magnitude?
  split
  · exact absurd ‹_› (hne 'x' _ rfl)
  · exact absurd ‹_› (hne 'o' _ rfl)
  · exact absurd ‹_› (hne 'b' _ rfl)
  · rw [digits?, if_neg (by simp [Nat.toDigits_ne_nil]), Text.inBase?_ten (isDigit_toDigits k),
      Json.decimal_toDigits]

theorem toList_toString (n : Int) : (toString n).toList =
    if 0 ≤ n then Nat.toDigits 10 n.toNat else '-' :: Nat.toDigits 10 (-n).toNat := by
  rw [Int.toString_eq_repr, Int.repr_eq_if]
  split
  · exact Nat.toList_repr
  · rw [String.toList_append, Nat.toList_repr]
    rfl

/-- The text of a number means that number and is not written plainly as a text. -/
theorem resolves_toString {n : Int} (h : Json.InRange n) : resolves (toString n) = true := by
  obtain ⟨hlow, hhigh⟩ := h
  have hinteger : meansInteger (toString n).toList = true := by
    rw [toList_toString]
    unfold meansInteger
    split
    · rw [isZeroed_toDigits]
      split
      · exact absurd ‹_› (toDigits_ne_cons rfl _)
      · exact absurd ‹_› (toDigits_ne_cons rfl _)
      · rw [magnitude?_toDigits]
        simp
        omega
    · have hzeroed : isZeroed ('-' :: Nat.toDigits 10 (-n).toNat) = false :=
        not_zeroed (-n).toNat
      rw [hzeroed]
      show (true && (magnitude? _).any _) = true
      rw [magnitude?_toDigits]
      simp
      omega
  unfold resolves
  rw [hinteger]
  simp

/-- A number is told by its text. -/
theorem toString_int_inj {n m : Int} (hn : Json.InRange n) (hm : Json.InRange m)
    (h : (toString n).toList = (toString m).toList) : n = m := by
  have hends : Json.Ends [] := fun _ h => by cases h
  have hread := Json.number?_toString hn hends
  rw [h, Json.number?_toString hm hends] at hread
  exact (Json.int.inj (congrArg Prod.fst (Option.some.inj hread))).symm

theorem hasIndicator_digits {b : Char} {cs : List Char} (h : ∀ c ∈ cs, c.isDigit) :
    hasIndicator (some b) cs = false := by
  induction cs generalizing b with
  | nil => rfl
  | cons c cs ih =>
    obtain ⟨hc, hcs⟩ := List.forall_mem_cons.1 h
    have hcolon : c ≠ ':' := by rintro rfl; cases hc
    have hhash : c ≠ '#' := by rintro rfl; cases hc
    rw [hasIndicator, ih hcs]
    simp [isIndicator, hcolon, hhash]

theorem ne_of_isDigit {c d : Char} (hc : c.isDigit) (hd : d.isDigit = false) : c ≠ d := by
  rintro rfl
  exact Bool.false_ne_true (hd.symm.trans hc)

theorem isIndicator_digit {c : Char} (hc : c.isDigit) (after : Option Char) :
    isIndicator none c after = false := by
  have hmark : "#,[]\x7b\x7d&*!|>'\"%@`".toList.contains c = false := by
    have hnone : ∀ d ∈ "#,[]\x7b\x7d&*!|>'\"%@`".toList, d.isDigit = false := by simp
    rw [List.contains_eq_mem, decide_eq_false_iff_not]
    exact fun hmem => Bool.false_ne_true ((hnone c hmem).symm.trans hc)
  rw [isIndicator, if_pos Option.isNone_none, hmark, Bool.false_or]
  simp [ne_of_isDigit hc (d := '?') rfl, ne_of_isDigit hc (d := ':') rfl,
    ne_of_isDigit hc (d := '-') rfl]

theorem isBreak_digit {c : Char} (hc : c.isDigit) : isBreak c = false := by
  obtain ⟨hlow, hhigh⟩ := Text.toNat_of_isDigit hc
  simp [isBreak, ne_of_isDigit hc (d := '\n') rfl, ne_of_isDigit hc (d := '\r') rfl]
  omega

theorem endsWord_digit {c : Char} (hc : c.isDigit) : endsWord (some c) = false := by
  simp [endsWord, isBreak_digit hc, ne_of_isDigit hc (d := ' ') rfl,
    ne_of_isDigit hc (d := '\t') rfl]

theorem standsPlain_toString (n : Int) : StandsPlain (toString n).toList := by
  have hcons (k : Nat) : ∃ d ds, Nat.toDigits 10 k = d :: ds ∧ ∀ c ∈ d :: ds, c.isDigit := by
    obtain ⟨d, ds, hd⟩ := List.exists_cons_of_ne_nil (Nat.toDigits_ne_nil (n := k) (b := 10))
    exact ⟨d, ds, hd, hd ▸ isDigit_toDigits k⟩
  have hline {cs : List Char} (h : ∀ c ∈ cs, c.isDigit) : '\n' ∉ cs := fun hmem =>
    Bool.false_ne_true (h _ hmem)
  rw [toList_toString]
  split
  · obtain ⟨d, ds, hd, hdigits⟩ := hcons n.toNat
    obtain ⟨hfirst, hrest⟩ := List.forall_mem_cons.1 hdigits
    rw [hd]
    refine ⟨List.cons_ne_nil _ _, hline hdigits, ?_, ?_⟩
    · rintro c hc
      obtain rfl : d = c := Option.some.inj hc
      exact ⟨ne_of_isDigit hfirst rfl, isBreak_digit hfirst⟩
    · rw [hasIndicator, isIndicator_digit hfirst, hasIndicator_digits hrest, Bool.or_false]
  · obtain ⟨d, ds, hd, hdigits⟩ := hcons (-n).toNat
    have hfirst := hdigits d List.mem_cons_self
    have hsign : isIndicator none '-' (some d) = false := by
      rw [isIndicator, endsWord_digit hfirst]
      decide
    rw [hd]
    refine ⟨List.cons_ne_nil _ _, fun hmem => ?_, ?_, ?_⟩
    · exact hline hdigits ((List.mem_cons.1 hmem).resolve_left (by decide))
    · rintro c hc
      obtain rfl : '-' = c := Option.some.inj hc
      decide
    · rw [hasIndicator, hasIndicator_digits hdigits, List.head?_cons, hsign, Bool.or_false]

/-! ## Values on one line -/

/-- A document whose numbers fit into 64 bits. -/
inductive IsBounded : Yaml → Prop where
  | str (s : String) : IsBounded (.str s)
  | int {n : Int} (h : Json.InRange n) : IsBounded (.int n)
  | bool (b : Bool) : IsBounded (.bool b)
  | seq {xs : List Yaml} (h : ∀ x ∈ xs, IsBounded x) : IsBounded (.seq xs)
  | map {es : List (String × Yaml)} (h : ∀ e ∈ es, IsBounded e.2) : IsBounded (.map es)

variable {column : Nat} {free : Bool} {v v' : Yaml} {t t' : Token} {r r' : List Char}

theorem standsPlain_toString_bool (b : Bool) : StandsPlain (toString b).toList := by
  cases b with
  | false => exact ⟨by decide, by decide, fun c hc => by cases hc; decide, by decide⟩
  | true => exact ⟨by decide, by decide, fun c hc => by cases hc; decide, by decide⟩

theorem sound_of_token (h : v.token? = some t) : t.Sound := by
  unfold token? at h
  split at h
  · split at h
    · cases h
    · exact Option.some.inj h ▸ Token.sound_ofStyle _ false
  · exact Option.some.inj h ▸ .plain (standsPlain_toString _)
  · exact Option.some.inj h ▸ .plain (standsPlain_toString_bool _)
  · exact Option.some.inj h ▸ .noItems
  · exact Option.some.inj h ▸ .noEntries
  · cases h

/-- The kinds of values. -/
inductive Kind where
  | text
  | number
  | flag
  | list
  | entries

def kind : Yaml → Kind
  | .str _ => .text
  | .int _ => .number
  | .bool _ => .flag
  | .seq _ => .list
  | .map _ => .entries

/-- The kind of the value that a token is written for. -/
def Token.kind : Token → Kind
  | .plain cs =>
    if meansFlag (String.ofList cs) then .flag
    else if resolves (String.ofList cs) then .number else .text
  | .singleQuoted _ => .text
  | .doubleQuoted _ => .text
  | .noItems => .list
  | .noEntries => .entries

theorem kind_ofStyle (s : String) : (Token.ofStyle s (style s false)).kind = .text := by
  cases hstyle : style s false with
  | plain =>
    have hresolves := (style_eq_plain hstyle).2
    have hflag : meansFlag s = false := by
      simp only [resolves, Bool.or_eq_false_iff] at hresolves
      exact hresolves.1.1.1.2
    simp [Token.ofStyle, Token.kind, hresolves, hflag]
  | _ => rfl

theorem kind_toString {n : Int} (h : Json.InRange n) :
    (Token.plain (toString n).toList).kind = .number := by
  have hflag : meansFlag (toString n) = false := by
    obtain ⟨c, cs, hcs, hc⟩ := Json.head_toString n
    have hwords : ∀ w ∈ ["true", "True", "TRUE", "false", "False", "FALSE"],
        w.toList.head?.all fun c => !(c == '-' || c.isDigit) := by decide
    rw [meansFlag, List.contains_eq_mem, decide_eq_false_iff_not]
    intro hmem
    have hword := hwords _ hmem
    rcases hc with rfl | hc <;> simp_all
  rw [Token.kind, String.ofList_toList, hflag, resolves_toString h]
  rfl

/-- A text that looks like a number or a truth value is quoted. -/
theorem kind_of_token (hv : v.IsBounded) (h : v.token? = some t) : t.kind = v.kind := by
  unfold token? at h
  split at h
  · split at h
    · cases h
    · exact Option.some.inj h ▸ kind_ofStyle _
  · cases hv with
    | int hn => exact Option.some.inj h ▸ kind_toString hn
  · rename_i b
    cases b <;> exact Option.some.inj h ▸ rfl
  · exact Option.some.inj h ▸ rfl
  · exact Option.some.inj h ▸ rfl
  · cases h

theorem eq_nil_of_token?_seq {xs : List Yaml} (h : (Yaml.seq xs).token? = some t) : xs = [] := by
  cases xs with
  | nil => rfl
  | cons => cases h

theorem eq_nil_of_token?_map {es : List (String × Yaml)} (h : (Yaml.map es).token? = some t) :
    es = [] := by
  cases es with
  | nil => rfl
  | cons => cases h

/-- A token stands for one value. -/
theorem token?_inj (hv : v.IsBounded) (hv' : v'.IsBounded) (h : v.token? = some t)
    (h' : v'.token? = some t) : v = v' := by
  have hkind : v.kind = v'.kind := (kind_of_token hv h).symm.trans (kind_of_token hv' h')
  cases hv with
  | str s =>
    cases hv' with
    | str s' =>
      simp only [token?, Option.ite_none_left_eq_some, Option.some.injEq] at h h'
      rw [Token.ofStyle_inj (h.2.trans h'.2.symm)]
    | _ => cases hkind
  | int hn =>
    cases hv' with
    | int hm =>
      have htext := Token.plain.inj (Option.some.inj (h.trans h'.symm))
      rw [toString_int_inj hn hm htext]
    | _ => cases hkind
  | bool b =>
    cases hv' with
    | bool b' =>
      have htext := Token.plain.inj (Option.some.inj (h.trans h'.symm))
      cases b <;> cases b' <;> first | rfl | exact absurd htext (by decide)
    | _ => cases hkind
  | seq =>
    cases hv' with
    | seq => rw [eq_nil_of_token?_seq h, eq_nil_of_token?_seq h']
    | _ => cases hkind
  | map =>
    cases hv' with
    | map => rw [eq_nil_of_token?_map h, eq_nil_of_token?_map h']
    | _ => cases hkind

/-! ## Texts and keys -/

theorem Token.mark?_ne (t : Token) :
    t.mark? ≠ some '|' ∧ t.mark? ≠ some '-' ∧ t.mark? ≠ some '?' := by
  cases t <;> simp [mark?]

/-- Texts with the breaks that end them. -/
theorem scalarText_cancel {s s' : String} (hcolumn : 0 < column) (hr : Dedents column r)
    (hr' : Dedents column r') (h : scalarText column s ++ r = scalarText column s' ++ r') :
    s = s' ∧ r = r' := by
  have hmark (s : String) (r : List Char) :
      opening ((Token.ofStyle s (style s false)).text column ++ r) ≠ some '|' := by
    rw [Token.opening_text (Token.sound_ofStyle s false)]
    exact (Token.mark?_ne _).1
  unfold scalarText at h
  split at h <;> split at h
  · rename_i hs hs'
    rw [List.cons_append, List.cons_append, List.append_assoc, List.append_assoc] at h
    have hsplit := congrArg (Text.splitOnce '\n') (List.cons.inj h).2
    rw [List.cons_append, List.cons_append, Text.splitOnce_append (break_notMem_literalHints _),
      Text.splitOnce_append (break_notMem_literalHints _)] at hsplit
    obtain ⟨hhints, hlines⟩ := Prod.mk.inj (Option.some.inj hsplit)
    have hne {s : String} (hs : style s false = .literal) : s.toList ≠ [] :=
      List.ne_nil_of_mem (style_eq_literal hs).2
    have hends : endsBroken true s.toList = endsBroken true s'.toList := by
      rw [Bool.eq_iff_iff, ← not_iff_not, Bool.not_eq_true, Bool.not_eq_true,
        ← dash_mem_literalHints (hne hs), ← dash_mem_literalHints (hne hs'), hhints]
    obtain ⟨hchars, hr⟩ := literalText_cancel hcolumn hr hr' hends hlines
    exact ⟨String.toList_inj.1 hchars, hr⟩
  · rw [List.append_assoc] at h
    exact absurd (congrArg opening h).symm (hmark s' _)
  · rw [List.append_assoc] at h
    exact absurd (congrArg opening h) (hmark s _)
  · rw [List.append_assoc, List.append_assoc] at h
    obtain ⟨htoken, hrest⟩ := Token.cancel hcolumn (Token.sound_ofStyle s false)
      (Token.sound_ofStyle s' false) (.line r) (.line r') h
    exact ⟨Token.ofStyle_inj htoken, (List.cons.inj hrest).2⟩

/-- A value follows its key after a blank or on a line of its own. -/
inductive AfterKey : List Char → Prop where
  | mk {c : Char} (r : List Char) (hc : c = ' ' ∨ c = '\n') : AfterKey (c :: r)

theorem keyText_cancel {k k' : String} (hr : AfterKey r) (hr' : AfterKey r')
    (h : keyText column k ++ r = keyText column k' ++ r') : k = k' ∧ r = r' := by
  have hmark (s : String) (r : List Char) :
      opening ((Token.ofStyle s (style s true)).text (column + 2) ++ r) ≠ some '?' := by
    rw [Token.opening_text (Token.sound_ofStyle s true)]
    exact (Token.mark?_ne _).2.2
  have hcolon (r : List Char) : Dedents (column + 2) (spaces column ++ ':' :: r) :=
    .line (by omega) (by decide) rfl
  have hfollows {r : List Char} (hr : AfterKey r) : Follows (':' :: r) := by
    cases hr with
    | mk r hc => exact .colon r hc
  have hcolumn : 0 < column + 2 := Nat.succ_pos _
  unfold keyText at h
  split at h <;> split at h
  · simp only [List.cons_append, List.append_assoc, List.cons.injEq, true_and,
      List.nil_append] at h
    obtain ⟨rfl, hrest⟩ := scalarText_cancel hcolumn (hcolon r) (hcolon r') h
    exact ⟨rfl, (List.cons.inj (List.append_cancel_left hrest)).2⟩
  · rw [List.append_assoc] at h
    exact absurd (congrArg opening h).symm (hmark k' _)
  · rw [List.append_assoc] at h
    exact absurd (congrArg opening h) (hmark k _)
  · rw [List.append_assoc, List.append_assoc] at h
    obtain ⟨htoken, hrest⟩ := Token.cancel hcolumn (Token.sound_ofStyle k true)
      (Token.sound_ofStyle k' true) (hfollows hr) (hfollows hr') h
    exact ⟨Token.ofStyle_inj htoken, (List.cons.inj hrest).2⟩

/-- A key does not begin as an item or several lines do. -/
theorem opening_keyText (k : String) (r : List Char) :
    opening (keyText column k ++ r) ≠ some '-' ∧ opening (keyText column k ++ r) ≠ some '|' := by
  unfold keyText
  split
  · exact ⟨(by decide : some '?' ≠ some '-'), (by decide : some '?' ≠ some '|')⟩
  · rw [List.append_assoc, Token.opening_text (Token.sound_ofStyle k true)]
    exact ⟨(Token.mark?_ne _).2.1, (Token.mark?_ne _).1⟩

theorem head_keyText (column : Nat) (k : String) :
    ∃ c cs, keyText column k = c :: cs ∧ c ≠ ' ' ∧ isBreak c = false := by
  unfold keyText
  split
  · exact ⟨_, _, rfl, by decide, rfl⟩
  · obtain ⟨c, cs, htext, hc⟩ := Token.head_text (Token.sound_ofStyle k true) (column + 2)
    rw [htext]
    exact ⟨c, _, rfl, hc⟩

/-! ## How values begin -/

/-- What a value is written as. -/
inductive Shape where
  | token
  | lines
  | items
  | entries

/-- How the text of a value begins, after the mark or the key of its entry. -/
inductive Begins (column : Nat) (free : Bool) : Shape → List Char → Prop where
  | token {t : Token} (ht : t.Sound) (r : List Char) :
      Begins column free .token (' ' :: (t.text (column + 2) ++ '\n' :: r))
  | lines (r : List Char) : Begins column free .lines (' ' :: '|' :: r)
  | items (r : List Char) : Begins column free .items
      (leadIn (if free then column + 2 else column) free ++ '-' :: ' ' :: r)
  | entries (k : String) {r : List Char} (hr : AfterKey r) : Begins column free .entries
      (leadIn (column + 2) free ++ (keyText (column + 2) k ++ r))

def Shape.rank : Shape → Nat
  | .token => 0
  | .lines => 1
  | .items => 2
  | .entries => 3

/-- A token is no key: a colon would have to follow it. -/
theorem token_ne_key {k : String} (ht : t.Sound) (hr : AfterKey r) (column column' : Nat) :
    t.text (column + 1) ++ '\n' :: r' ≠ keyText column' k ++ r := by
  intro h
  unfold keyText at h
  split at h
  · have hopening := congrArg opening h
    rw [Token.opening_text ht] at hopening
    exact (Token.mark?_ne t).2.2 hopening
  · rename_i hlong
    have hline : k.toList.any isBreak = false := by
      simp only [isLongKey, Bool.or_eq_true, not_or, Bool.not_eq_true] at hlong
      exact hlong.2
    have hfollows : Follows (':' :: r) := by
      cases hr with
      | mk r hc => exact .colon r hc
    rw [List.append_assoc, Token.text_of_noBreak hline _ _ (column + 1)] at h
    obtain ⟨-, hrest⟩ := Token.cancel (Nat.succ_pos column) ht (Token.sound_ofStyle k true)
      (.line r') hfollows h
    exact absurd (List.cons.inj hrest).1 (by decide)

/-- Each shape begins in a way of its own. -/
theorem Begins.not_lt {s s' : Shape} {cs cs' : List Char} (h : Begins column free s cs)
    (h' : Begins column free s' cs') (heq : cs = cs') : ¬ s.rank < s'.rank := by
  intro hlt
  cases h with
  | token ht r =>
    have hopening := Token.opening_text ht (column + 2) ('\n' :: r)
    cases h' with
    | token => exact absurd hlt (by decide)
    | lines r' =>
      rw [(List.cons.inj heq).2] at hopening
      exact (Token.mark?_ne _).1 hopening.symm
    | items r' =>
      cases free with
      | true =>
        rw [(List.cons.inj heq).2] at hopening
        exact (Token.mark?_ne _).2.1 hopening.symm
      | false => cases (List.cons.inj heq).1
    | entries k hr =>
      cases free with
      | true => exact token_ne_key ht hr (column + 1) (column + 2) (List.cons.inj heq).2
      | false => cases (List.cons.inj heq).1
  | lines r =>
    cases h' with
    | token => exact absurd hlt (by decide)
    | lines r' => exact absurd hlt (by decide)
    | items r' =>
      cases free with
      | true => cases (List.cons.inj (List.cons.inj heq).2).1
      | false => cases (List.cons.inj heq).1
    | entries k hr =>
      cases free with
      | true =>
        have hopening := congrArg opening (List.cons.inj heq).2
        exact (opening_keyText k _).2 hopening.symm
      | false => cases (List.cons.inj heq).1
  | items r =>
    cases h' with
    | entries k hr =>
      cases free with
      | true =>
        have hopening := congrArg opening (List.cons.inj heq).2
        exact (opening_keyText k _).1 hopening.symm
      | false =>
        exact spaces_ne (Nat.lt_add_of_pos_right (by decide)) (by decide) (List.cons.inj heq).2
    | _ => exact absurd hlt (by decide)
  | entries k hr => cases h' <;> exact absurd hlt (by decide)

def shape (v : Yaml) : Shape :=
  match v with
  | .seq (_ :: _) => .items
  | .map (_ :: _) => .entries
  | v => if v.token?.isSome then .token else .lines

theorem head_valueText (v : Yaml) (column : Nat) (free : Bool) :
    ∃ c cs, valueText column free v = c :: cs ∧ (c = ' ' ∨ free = false ∧ c = '\n') := by
  have hlead (n : Nat) : ∃ c cs, leadIn n free = c :: cs ∧ (c = ' ' ∨ free = false ∧ c = '\n') := by
    cases free with
    | true => exact ⟨_, _, rfl, .inl rfl⟩
    | false => exact ⟨_, _, rfl, .inr ⟨rfl, rfl⟩⟩
  cases v with
  | str s => exact ⟨_, _, by rw [valueText], .inl rfl⟩
  | int n => exact ⟨_, _, by rw [valueText], .inl rfl⟩
  | bool b => exact ⟨_, _, by rw [valueText], .inl rfl⟩
  | seq xs =>
    cases xs with
    | nil => exact ⟨_, _, by rw [valueText], .inl rfl⟩
    | cons x xs =>
      obtain ⟨c, cs, hc, hhead⟩ := hlead (if free then column + 2 else column)
      exact ⟨c, _, by rw [valueText, itemsText, hc, List.cons_append], hhead⟩
  | map es =>
    cases es with
    | nil => exact ⟨_, _, by rw [valueText], .inl rfl⟩
    | cons e es =>
      obtain ⟨c, cs, hc, hhead⟩ := hlead (column + 2)
      exact ⟨c, _, by rw [valueText, entriesText, hc, List.cons_append], hhead⟩

theorem afterKey_valueText (v : Yaml) (column : Nat) (free : Bool) (r : List Char) :
    AfterKey (valueText column free v ++ r) := by
  obtain ⟨c, cs, htext, hc⟩ := head_valueText v column free
  rw [htext]
  exact .mk _ (hc.imp_right (·.2))

/-- An item of a list begins with a dash and a blank. -/
theorem exists_itemsText (column : Nat) (lead : List Char) (x : Yaml) (xs : List Yaml)
    (r : List Char) : ∃ r', itemsText column lead (x :: xs) ++ r = lead ++ '-' :: ' ' :: r' := by
  obtain ⟨c, cs, htext, hc⟩ := head_valueText x column true
  obtain rfl := hc.resolve_right (by simp)
  exact ⟨_, by rw [itemsText, htext]; simp only [List.append_assoc, List.cons_append]; rfl⟩

theorem entriesText_append (column : Nat) (lead : List Char) (k : String) (v : Yaml)
    (es : List (String × Yaml)) (r : List Char) : entriesText column lead ((k, v) :: es) ++ r =
      lead ++ (keyText column k ++
        (valueText column (isLongKey k) v ++ (entriesText column (spaces column) es ++ r))) := by
  rw [entriesText]
  simp only [List.append_assoc]

theorem begins (v : Yaml) (column : Nat) (free : Bool) (r : List Char) :
    Begins column free v.shape (valueText column free v ++ r) := by
  have htoken {v : Yaml} {t : Token} (ht : v.token? = some t) :
      Begins column free .token (valueText column free v ++ r) := by
    rw [valueText_eq_of_token ht, List.cons_append, List.append_assoc]
    exact .token (sound_of_token ht) r
  cases v with
  | str s =>
    by_cases hs : style s false = .literal
    · have hshape : (Yaml.str s).shape = .lines := by simp [shape, token?, hs]
      rw [hshape, valueText, scalarText, if_pos hs]
      exact .lines _
    · have hshape : (Yaml.str s).shape = .token := by simp [shape, token?, hs]
      rw [hshape]
      exact htoken (show (Yaml.str s).token? = some _ from if_neg hs)
  | int n => exact htoken (v := .int n) rfl
  | bool b => exact htoken (v := .bool b) rfl
  | seq xs =>
    cases xs with
    | nil => exact htoken (v := .seq []) rfl
    | cons x xs =>
      obtain ⟨r', hr'⟩ := exists_itemsText (if free then column + 2 else column)
        (leadIn (if free then column + 2 else column) free) x xs r
      rw [valueText, hr']
      exact .items r'
  | map es =>
    cases es with
    | nil => exact htoken (v := .map []) rfl
    | cons e es =>
      rw [valueText, entriesText_append]
      exact .entries e.1 (afterKey_valueText ..)

theorem Shape.rank_inj {s s' : Shape} (h : s.rank = s'.rank) : s = s' := by
  cases s <;> cases s' <;> first | rfl | cases h

/-- Equal texts begin with values of one shape. -/
theorem shape_eq (h : valueText column free v ++ r = valueText column free v' ++ r') :
    v.shape = v'.shape := by
  have hnot := (begins v column free r).not_lt (begins v' column free r') h
  have hnot' := (begins v' column free r').not_lt (begins v column free r) h.symm
  exact Shape.rank_inj (Nat.le_antisymm (Nat.le_of_not_lt hnot') (Nat.le_of_not_lt hnot))

/-! ## Values, one after the other -/

theorem Dedents.mono {n m : Nat} (h : Dedents n r) (hle : n ≤ m) : Dedents m r := by
  cases h with
  | nil => exact .nil
  | line hn hspace hbreak => exact .line (hn.trans_le hle) hspace hbreak

/-- What may follow a value: a line that is not indented further than its entry is, and that does
not go on with the items that stand below a key. -/
structure FollowsValue (column : Nat) (free : Bool) (r : List Char) : Prop where
  dedents : Dedents (column + 1) r
  notItem : free = false → ∀ t, r ≠ spaces column ++ '-' :: ' ' :: t

/-- A value can be taken off the front of what follows it. -/
def Cancels (v : Yaml) : Prop :=
  ∀ {v' : Yaml} {column : Nat} {free : Bool} {r r' : List Char}, v'.IsBounded →
    FollowsValue column free r → FollowsValue column free r' →
    valueText column free v ++ r = valueText column free v' ++ r' → v = v' ∧ r = r'

theorem FollowsValue.ofDedents (h : Dedents column r) : FollowsValue column free r := by
  refine ⟨h.mono (Nat.le_succ column), fun _ t hr => ?_⟩
  cases h with
  | nil => cases column <;> cases hr
  | line hn hspace _ => exact spaces_ne hn hspace hr

theorem followsValue_items (hr : FollowsValue column false r) (xs : List Yaml) :
    FollowsValue column true (itemsText column (spaces column) xs ++ r) := by
  refine ⟨?_, by simp⟩
  cases xs with
  | nil => exact hr.dedents
  | cons x xs =>
    obtain ⟨r', hr'⟩ := exists_itemsText column (spaces column) x xs r
    rw [hr']
    exact .line (Nat.lt_succ_self column) (by decide) rfl

theorem items_cancel {xs ys : List Yaml} (hxs : ∀ x ∈ xs, Cancels x)
    (hys : ∀ y ∈ ys, y.IsBounded) (hr : FollowsValue column false r)
    (hr' : FollowsValue column false r')
    (h : itemsText column (spaces column) xs ++ r = itemsText column (spaces column) ys ++ r') :
    xs = ys ∧ r = r' := by
  induction xs generalizing ys with
  | nil =>
    cases ys with
    | nil => exact ⟨rfl, h⟩
    | cons y ys =>
      obtain ⟨t, ht⟩ := exists_itemsText column (spaces column) y ys r'
      exact absurd (h.trans ht) (hr.notItem rfl t)
  | cons x xs ih =>
    cases ys with
    | nil =>
      obtain ⟨t, ht⟩ := exists_itemsText column (spaces column) x xs r
      exact absurd (h.symm.trans ht) (hr'.notItem rfl t)
    | cons y ys =>
      obtain ⟨hx, hxs'⟩ := List.forall_mem_cons.1 hxs
      obtain ⟨hy, hys'⟩ := List.forall_mem_cons.1 hys
      simp only [itemsText, List.append_assoc, List.cons_append] at h
      have hvalue := (List.cons.inj (List.append_cancel_left h)).2
      obtain ⟨rfl, hrest⟩ :=
        hx hy (followsValue_items hr xs) (followsValue_items hr' ys) hvalue
      obtain ⟨rfl, rfl⟩ := ih hxs' hys' hrest
      exact ⟨rfl, rfl⟩

theorem followsValue_entries (hr : Dedents column r) (es : List (String × Yaml)) :
    FollowsValue column free (entriesText column (spaces column) es ++ r) := by
  cases es with
  | nil => exact .ofDedents hr
  | cons e es =>
    obtain ⟨k, v⟩ := e
    rw [entriesText_append]
    obtain ⟨c, cs, hkey, hspace, hbreak⟩ := head_keyText column k
    refine ⟨?_, fun _ t ht => ?_⟩
    · rw [hkey]
      exact .line (Nat.lt_succ_self column) hspace hbreak
    · have hopening := congrArg opening (List.append_cancel_left ht)
      exact (opening_keyText k _).1 hopening

theorem Dedents.ne_entries (hr : Dedents column r) (e : String × Yaml)
    (es : List (String × Yaml)) : r ≠ entriesText column (spaces column) (e :: es) ++ r' := by
  obtain ⟨k, v⟩ := e
  obtain ⟨c, cs, hkey, hspace, hbreak⟩ := head_keyText column k
  rw [entriesText_append, hkey]
  cases hr with
  | nil => simp
  | line hn hspace _ => exact spaces_ne hn hspace

theorem entries_cancel {es ds : List (String × Yaml)} (hes : ∀ e ∈ es, Cancels e.2)
    (hds : ∀ d ∈ ds, d.2.IsBounded) (hr : Dedents column r) (hr' : Dedents column r')
    (h : entriesText column (spaces column) es ++ r =
      entriesText column (spaces column) ds ++ r') : es = ds ∧ r = r' := by
  induction es generalizing ds with
  | nil =>
    cases ds with
    | nil => exact ⟨rfl, h⟩
    | cons d ds => exact absurd h (hr.ne_entries d ds)
  | cons e es ih =>
    cases ds with
    | nil => exact absurd h.symm (hr'.ne_entries e es)
    | cons d ds =>
      obtain ⟨k, v⟩ := e
      obtain ⟨k', v'⟩ := d
      obtain ⟨hv, hes'⟩ := List.forall_mem_cons.1 hes
      obtain ⟨hv', hds'⟩ := List.forall_mem_cons.1 hds
      rw [entriesText_append, entriesText_append] at h
      obtain ⟨rfl, hvalue⟩ := keyText_cancel (afterKey_valueText ..) (afterKey_valueText ..)
        (List.append_cancel_left h)
      obtain ⟨rfl, hrest⟩ :=
        hv hv' (followsValue_entries hr es) (followsValue_entries hr' ds) hvalue
      obtain ⟨rfl, rfl⟩ := ih hes' hds' hrest
      exact ⟨rfl, rfl⟩

theorem shape_of_token (h : v.token? = some t) : v.shape = .token := by
  cases v with
  | seq xs => cases xs with
    | nil => rfl
    | cons => cases h
  | map es => cases es with
    | nil => rfl
    | cons => cases h
  | _ => simp [shape, h]

/-- What the shape tells of a value. -/
theorem of_shape (v : Yaml) : match v.shape with
    | .token => ∃ t, v.token? = some t
    | .lines => ∃ s, v = .str s ∧ style s false = .literal
    | .items => ∃ x xs, v = .seq (x :: xs)
    | .entries => ∃ e es, v = .map (e :: es) := by
  cases v with
  | str s =>
    by_cases hs : style s false = .literal
    · rw [show (Yaml.str s).shape = .lines by simp [shape, token?, hs]]
      exact ⟨s, rfl, hs⟩
    · have ht : (Yaml.str s).token? = some _ := if_neg hs
      rw [shape_of_token ht]
      exact ⟨_, ht⟩
  | int n => exact ⟨_, rfl⟩
  | bool b => exact ⟨_, rfl⟩
  | seq xs => cases xs with
    | nil => exact ⟨_, rfl⟩
    | cons x xs => exact ⟨x, xs, rfl⟩
  | map es => cases es with
    | nil => exact ⟨_, rfl⟩
    | cons e es => exact ⟨e, es, rfl⟩

theorem cancels_of_token (hv : v.IsBounded) (ht : v.token? = some t) : Cancels v := by
  intro v' column free r r' hv' hr hr' h
  have hform := of_shape v'
  rw [← shape_eq h, shape_of_token ht] at hform
  obtain ⟨t', ht'⟩ := hform
  rw [valueText_eq_of_token ht, valueText_eq_of_token ht', List.cons_append, List.cons_append,
    List.append_assoc, List.append_assoc] at h
  obtain ⟨rfl, hrest⟩ := Token.cancel (Nat.succ_pos _) (sound_of_token ht) (sound_of_token ht')
    (.line r) (.line r') (List.cons.inj h).2
  exact ⟨token?_inj hv hv' ht ht', (List.cons.inj hrest).2⟩

theorem cancels_str (s : String) : Cancels (.str s) := by
  rcases eq_or_ne (style s false) .literal with hs | hs
  · intro v' column free r r' hv' hr hr' h
    have hform := of_shape v'
    rw [← shape_eq h, show (Yaml.str s).shape = .lines by simp [shape, token?, hs]] at hform
    obtain ⟨s', rfl, -⟩ := hform
    rw [valueText, valueText] at h
    obtain ⟨rfl, hrest⟩ := scalarText_cancel (Nat.succ_pos _) (hr.dedents.mono (Nat.le_succ _))
      (hr'.dedents.mono (Nat.le_succ _)) (List.cons.inj h).2
    exact ⟨rfl, hrest⟩
  · exact cancels_of_token (.str s) (if_neg hs)

/-- Items that stand below a key, or further in after a mark. -/
theorem FollowsValue.items (h : FollowsValue column free r) :
    FollowsValue (if free then column + 2 else column) false r := by
  cases free with
  | true => exact .ofDedents (h.dedents.mono (Nat.le_succ _))
  | false => exact h

theorem cancels_seq {xs : List Yaml} (hxs : ∀ x ∈ xs, x.IsBounded) (ih : ∀ x ∈ xs, Cancels x) :
    Cancels (.seq xs) := by
  cases xs with
  | nil => exact cancels_of_token (.seq hxs) rfl
  | cons x xs =>
    intro v' column free r r' hv' hr hr' h
    have hform := of_shape v'
    rw [← shape_eq h] at hform
    obtain ⟨y, ys, rfl⟩ := hform
    have hys : ∀ z ∈ y :: ys, z.IsBounded := by
      cases hv' with
      | seq h => exact h
    rw [valueText, valueText, itemsText, itemsText, List.append_assoc, List.append_assoc] at h
    -- the first items follow the same lead, so that they may as well stand on lines of their own
    obtain ⟨hxs, hrest⟩ := items_cancel ih hys hr.items hr'.items (by
      rw [itemsText, itemsText, List.append_assoc, List.append_assoc, List.append_cancel_left h])
    exact ⟨congrArg Yaml.seq hxs, hrest⟩

theorem cancels_map {es : List (String × Yaml)} (hes : ∀ e ∈ es, e.2.IsBounded)
    (ih : ∀ e ∈ es, Cancels e.2) : Cancels (.map es) := by
  cases es with
  | nil => exact cancels_of_token (.map hes) rfl
  | cons e es =>
    intro v' column free r r' hv' hr hr' h
    have hform := of_shape v'
    rw [← shape_eq h] at hform
    obtain ⟨d, ds, rfl⟩ := hform
    have hds : ∀ d' ∈ d :: ds, d'.2.IsBounded := by
      cases hv' with
      | map h => exact h
    rw [valueText, valueText, entriesText_append, entriesText_append] at h
    obtain ⟨hes, hrest⟩ := entries_cancel ih hds (hr.dedents.mono (Nat.le_succ _))
      (hr'.dedents.mono (Nat.le_succ _)) (by
        rw [entriesText_append, entriesText_append, List.append_cancel_left h])
    exact ⟨congrArg Yaml.map hes, hrest⟩

theorem cancels (hv : v.IsBounded) : Cancels v := by
  induction hv with
  | str s => exact cancels_str s
  | int hn => exact cancels_of_token (.int hn) rfl
  | bool b => exact cancels_of_token (.bool b) rfl
  | seq hxs ih => exact cancels_seq hxs ih
  | map hes ih => exact cancels_map hes ih

/-- The text of a document tells the document. -/
theorem render_inj {document document' : List (String × Yaml)}
    (h : ∀ e ∈ document, e.2.IsBounded) (h' : ∀ e ∈ document', e.2.IsBounded)
    (htext : render document = render document') : document = document' := by
  have hchars : entriesText 0 (spaces 0) document ++ [] =
      entriesText 0 (spaces 0) document' ++ [] := by
    rw [List.append_nil, List.append_nil]
    exact (toList_render document).symm.trans ((congrArg _ htext).trans (toList_render document'))
  exact (entries_cancel (fun e he => cancels (h e he)) h' .nil .nil hchars).1

end GridOperator.Yaml
