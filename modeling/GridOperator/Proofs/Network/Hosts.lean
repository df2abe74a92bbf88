import GridOperator.Network.Url
import GridOperator.Proofs.Results
import GridOperator.Proofs.Text.Cutting
import GridOperator.Proofs.Text.Octets

/-!
# Hosts that stand in an address as they are

Numbers of version four are hosts that a request can be sent to (`isValid_of_isDotted`).
Those of version six have colons, the first of which is taken for the one before the
port, unless there are brackets (`isHttp_member_iff`).
-/

namespace GridOperator

open Text

namespace Host

variable {cs p : List Char} {c : Char} {m : Nat}

/-! ## Characters -/

theorem isAlphanum_iff : c.isAlphanum ↔ 65 ≤ c.toNat ∧ c.toNat ≤ 90 ∨ 97 ≤ c.toNat ∧ c.toNat ≤ 122 ∨
    48 ≤ c.toNat ∧ c.toNat ≤ 57 := by
  have hranges : c.isAlphanum = (decide (65 ≤ c.val ∧ c.val ≤ 90) ||
      decide (97 ≤ c.val) && decide (c.val ≤ 122) ||
      decide (48 ≤ c.val) && decide (c.val ≤ 57)) := rfl
  simp only [hranges, Bool.or_eq_true, Bool.and_eq_true, decide_eq_true_eq,
    UInt32.le_iff_toNat_le, or_assoc]
  rfl

/-- The characters of numbers of either version and of names. -/
def isSign (c : Char) : Bool := c.isAlphanum || c == '-' || c == '.' || c == ':'

theorem isSign_of_isAlphanum (h : c.isAlphanum) : isSign c := by
  simp [isSign, h]

theorem isAlphanum_of_isDigit (h : c.isDigit) : c.isAlphanum := by
  simp [Char.isAlphanum, h]

theorem isAlphanum_of_digit? (h : (digit? 16 c).isSome) : c.isAlphanum := by
  unfold digit? at h
  split at h
  · exact isAlphanum_of_isDigit ‹_›
  · rw [isAlphanum_iff]
    split at h
    · rename_i hsmall
      obtain ⟨hlow, hhigh⟩ : 97 ≤ c.toNat ∧ c.toNat ≤ 102 := hsmall
      omega
    · split at h
      · rename_i hlarge
        obtain ⟨hlow, hhigh⟩ : 65 ≤ c.toNat ∧ c.toNat ≤ 70 := hlarge
        omega
      · cases h

/-- None of these characters is a blank or at the limit of a part of an address. -/
theorem blank_lt_of_isSign (h : isSign c) : 0x20 < c.toNat := by
  simp only [isSign, Bool.or_eq_true, beq_iff_eq] at h
  rcases h with ((halpha | rfl) | rfl) | rfl
  · rw [isAlphanum_iff] at halpha
    omega
  all_goals decide

/-! ## Version four -/

/-- A number below 256 without leading zeros. -/
structure IsOctet (p : List Char) : Prop where
  ne_nil : p ≠ []
  digits : ∀ c ∈ p, c.isDigit
  noZero : p.length = 1 ∨ p.head? ≠ some '0'
  lt : decimal p < 256

theorem octets_of_isDotted (h : isDotted cs) :
    (splitAll '.' cs).length = 4 ∧ ∀ p ∈ splitAll '.' cs, IsOctet p := by
  unfold isDotted at h
  simp only [Bool.and_eq_true, beq_iff_eq, List.all_eq_true] at h
  refine ⟨h.1, fun p hp => ?_⟩
  obtain ⟨⟨⟨⟨hne, hdigits⟩, hzero⟩, -⟩, hlt⟩ := h.2 p hp
  exact ⟨by simpa using hne, hdigits, by simpa using hzero, of_decide_eq_true hlt⟩

theorem isDigit_of_isDotted (h : isDotted cs) (hc : c ∈ cs) : c.isDigit ∨ c = '.' := by
  refine or_iff_not_imp_right.2 fun hne => ?_
  obtain ⟨p, hp, hmem⟩ := exists_mem_splitAll hc hne
  exact ((octets_of_isDotted h).2 p hp).digits c hmem

theorem IsOctet.part?_eq (h : IsOctet p) : part? p = some (decimal p) := by
  have hx : 'x' ∉ p ∧ 'X' ∉ p :=
    ⟨fun hmem => absurd (h.digits _ hmem) (by decide),
      fun hmem => absurd (h.digits _ hmem) (by decide)⟩
  unfold part?
  split
  · exact absurd rfl h.ne_nil
  · simp at hx
  · simp at hx
  · have := h.noZero
    simp at this
  · exact inBase?_ten h.digits

/-- Four numbers are not read in any other way than as four numbers. -/
theorem dottedParts_of_isDotted (h : isDotted cs) : dottedParts cs = splitAll '.' cs := by
  unfold dottedParts
  refine if_neg fun hlast => ?_
  exact ((octets_of_isDotted h).2 [] (List.mem_of_getLast? hlast.2)).ne_nil rfl

theorem isLenient_of_isDotted (h : isDotted cs) : isLenient cs := by
  obtain ⟨hlength, hoctets⟩ := octets_of_isDotted h
  have hread : (splitAll '.' cs).mapM part? = some ((splitAll '.' cs).map decimal) :=
    List.mapM_eq_some_map fun p hp => (hoctets p hp).part?_eq
  have hsmall : ∀ n ∈ (splitAll '.' cs).map decimal, n < 256 :=
    List.forall_mem_map.2 fun p hp => (hoctets p hp).lt
  have hlast := List.getLast?_eq_some_getLast (l := (splitAll '.' cs).map decimal)
    (by simp [splitAll_ne_nil])
  unfold isLenient
  rw [dottedParts_of_isDotted h]
  dsimp only
  rw [hread]
  dsimp only
  rw [hlast]
  simp only [hlength, List.length_map, Option.any_some, Bool.and_eq_true, List.all_eq_true,
    decide_eq_true_eq]
  refine ⟨le_rfl, fun n hn => hsmall n (List.dropLast_subset _ hn), ?_⟩
  exact hsmall _ (List.getLast_mem _)

/-! ## Names of such characters -/

/-- Whether a name has a character as it is, wherever it stands. -/
structure IsSettled (c : Char) : Prop where
  ascii : c.toNat < 0x80
  plain : DomainName.prepare? c = some [c]
  allowed : DomainName.isForbidden c = false
  starts : isMark c = false
  forward : DomainName.isAgainst c = false
  joins : c ≠ joiner ∧ c ≠ nonJoiner
  means : c ≠ '%' ∧ c ≠ 'x'

theorem isSettled_of_isDotted (h : isDotted cs) (hc : c ∈ cs) : IsSettled c := by
  rcases isDigit_of_isDotted h hc with hdigit | rfl
  · obtain ⟨hlow, hhigh⟩ := toNat_of_isDigit hdigit
    have hall : ∀ n, 48 ≤ n → n ≤ 57 → DomainName.prepare? (Char.ofNat n) = some [Char.ofNat n] ∧
        DomainName.isForbidden (Char.ofNat n) = false ∧ isMark (Char.ofNat n) = false ∧
        DomainName.isAgainst (Char.ofNat n) = false ∧
        (Char.ofNat n ≠ joiner ∧ Char.ofNat n ≠ nonJoiner) ∧
        (Char.ofNat n ≠ '%' ∧ Char.ofNat n ≠ 'x') := by decide +kernel
    have hsettled := hall c.toNat hlow hhigh
    rw [Char.ofNat_toNat] at hsettled
    obtain ⟨hplain, hallowed, hstarts, hforward, hjoins, hmeans⟩ := hsettled
    exact ⟨by omega, hplain, hallowed, hstarts, hforward, hjoins, hmeans⟩
  · exact ⟨by decide, by decide, by decide, by decide +kernel, by decide +kernel, by decide,
      by decide⟩

theorem unescape_of_notMem {os : List UInt8} (h : 0x25 ∉ os) : unescape os = os := by
  induction os with
  | nil => rfl
  | cons o os ih =>
    obtain ⟨hne, hnot⟩ := List.ne_and_not_mem_of_not_mem_cons h
    rw [unescape.eq_def]
    split
    · rename_i heq
      cases heq
    · rename_i heq
      exact absurd (List.cons.inj heq).1.symm hne
    · rename_i heq
      obtain ⟨rfl, rfl⟩ := List.cons.inj heq
      rw [ih hnot]

theorem octets_of_ascii (h : ∀ c ∈ cs, c.toNat < 0x80) :
    octets cs = cs.map fun c => UInt8.ofNat c.toNat := by
  induction cs with
  | nil => rfl
  | cons c cs ih =>
    obtain ⟨hc, hcs⟩ := List.forall_mem_cons.1 h
    have hone : String.utf8EncodeChar c = [UInt8.ofNat c.toNat] := if_pos (Nat.le_of_lt_succ hc)
    rw [octets_cons, ih hcs, hone]
    rfl

theorem unescaped?_eq_self (h : ∀ c ∈ cs, IsSettled c) : unescaped? cs = some cs := by
  have hnot : (0x25 : UInt8) ∉ octets cs := by
    rw [octets_of_ascii fun c hc => (h c hc).ascii]
    intro hmem
    obtain ⟨c, hc, heq⟩ := List.mem_map.1 hmem
    have hcode : c.toNat = 0x25 := by
      have hmod : c.toNat % 256 = 0x25 := congrArg UInt8.toNat heq
      have hascii := (h c hc).ascii
      omega
    have hpercent : c = '%' := by rw [← Char.ofNat_toNat c, hcode]
    exact (h c hc).means.1 hpercent
  have hoctets : unescape (String.ofList cs).toUTF8.toList = octets cs := by
    rw [toList_toUTF8, String.toList_ofList, unescape_of_notMem hnot]
  unfold unescaped?
  rw [hoctets]
  exact ofOctets?_eq_some_iff.2 rfl

theorem areJoinersPlaced_of_ne (h : ∀ c ∈ cs, IsSettled c) (before : List Char) :
    areJoinersPlaced before cs := by
  induction cs generalizing before with
  | nil => rfl
  | cons c cs ih =>
    obtain ⟨hc, hcs⟩ := List.forall_mem_cons.1 h
    simp [areJoinersPlaced, hc.joins, ih hcs]

theorem isLabel_of_settled (h : ∀ c ∈ cs, IsSettled c) : DomainName.isLabel cs := by
  have hhead : cs.head?.any isMark = false := by
    cases cs with
    | nil => rfl
    | cons c cs => exact (h c List.mem_cons_self).starts
  have hallowed : cs.any DomainName.isForbidden = false :=
    List.any_eq_false.2 fun c hc => by simp [(h c hc).allowed]
  rw [DomainName.isLabel, hhead, hallowed, areJoinersPlaced_of_ne h]
  rfl

theorem plain?_eq_self (h : ∀ c ∈ cs, IsSettled c) : DomainName.plain? cs = some cs := by
  have hparts : ∀ p ∈ splitAll '.' cs, ∀ c ∈ p, IsSettled c :=
    fun p hp c hc => h c (mem_of_mem_splitAll hp hc)
  have hprepare : cs.mapM DomainName.prepare? = some (cs.map fun c => [c]) :=
    List.mapM_eq_some_map fun c hc => (h c hc).plain
  have hdecode : (splitAll '.' cs).mapM DomainName.decode? = some ((splitAll '.' cs).map id) := by
    refine List.mapM_eq_some_map fun p hp => ?_
    unfold DomainName.decode?
    split
    · exact absurd rfl (hparts _ hp 'x' List.mem_cons_self).means.2
    · rfl
  have hlabels : (splitAll '.' cs).all DomainName.isLabel :=
    List.all_eq_true.2 fun p hp => isLabel_of_settled (hparts p hp)
  have hforward : (splitAll '.' cs).any (·.any DomainName.isAgainst) = false := by
    refine List.any_eq_false.2 fun p hp hany => ?_
    obtain ⟨c, hc, hagainst⟩ := List.any_eq_true.1 hany
    rw [(hparts p hp c hc).forward] at hagainst
    cases hagainst
  have hname : (cs.map fun c => [c]).flatten = cs :=
    List.flatMap_def.symm.trans (List.flatMap_singleton' cs)
  unfold DomainName.plain?
  simp only [hprepare, Option.bind_eq_bind, Option.bind_some, hname, hdecode, List.map_id, hlabels,
    hforward, Bool.not_false, Bool.true_or, Bool.and_true, if_true]

theorem isValid_of_isDotted (h : isDotted cs) : isValid cs := by
  have hsettled : ∀ c ∈ cs, IsSettled c := fun c hc => isSettled_of_isDotted h hc
  have hne : cs.isEmpty = false := by
    cases cs with
    | nil => cases h
    | cons => rfl
  unfold isValid
  split
  · rcases isDigit_of_isDotted h List.mem_cons_self with hc | hc <;> exact absurd hc (by decide)
  · rw [unescaped?_eq_self hsettled, Option.bind_some, plain?_eq_self hsettled]
    dsimp only
    rw [hne, isLenient_of_isDotted h, Bool.or_true]
    rfl

/-! ## Version six -/

theorem splitGap_eq_some {before after : List Char} (h : splitGap cs = some (before, after)) :
    cs = before ++ ':' :: ':' :: after := by
  induction cs using splitGap.induct generalizing before with
  | case1 => cases h
  | case2 rest =>
    rw [splitGap] at h
    obtain ⟨rfl, rfl⟩ := Prod.mk.inj (Option.some.inj h)
    rfl
  | case3 c cs hc ih =>
    rw [splitGap] at h
    · obtain ⟨⟨b, a⟩, hrest, heq⟩ := Option.map_eq_some_iff.1 h
      obtain ⟨rfl, rfl⟩ := Prod.mk.inj heq
      rw [ih hrest]
      rfl
    · exact hc

theorem isSign_of_isDotted (h : isDotted cs) (hc : c ∈ cs) : isSign c := by
  rcases isDigit_of_isDotted h hc with hdigit | rfl
  · exact isSign_of_isAlphanum (isAlphanum_of_isDigit hdigit)
  · decide

/-- Groups between colons have the digits of base sixteen, or they are a number of version four. -/
theorem isSign_of_groups? (h : groups? cs = some m) (hc : c ∈ cs) : isSign c := by
  by_cases hcolon : c = ':'
  · subst hcolon
    decide
  obtain ⟨p, hp, hmem⟩ := exists_mem_splitAll hc hcolon
  have hgroup (hall : p.all fun c => (digit? 16 c).isSome) : isSign c :=
    isSign_of_isAlphanum (isAlphanum_of_digit? (List.all_eq_true.1 hall c hmem))
  unfold groups? at h
  rw [if_neg (by simpa using List.ne_nil_of_mem hc)] at h
  dsimp only at h
  split at h
  · rename_i hparts
    have hpart := List.all_eq_true.1 hparts p hp
    simp only [Bool.and_eq_true] at hpart
    exact hgroup hpart.2
  · split at h
    · rename_i hparts
      obtain ⟨hfirst, hlast⟩ := Bool.and_eq_true_iff.1 hparts
      obtain ⟨q, hq, hdotted⟩ := (Option.any_eq_true _ _).1 hlast
      rw [← List.dropLast_append_getLast? q hq] at hp
      rcases List.mem_append.1 hp with hp | hp
      · have hpart := List.all_eq_true.1 hfirst p hp
        simp only [Bool.and_eq_true] at hpart
        exact hgroup hpart.2
      · obtain rfl := List.mem_singleton.1 hp
        exact isSign_of_isDotted hdotted hmem
    · cases h

theorem isSign_of_isVersion6 (h : isVersion6 cs) (hc : c ∈ cs) : isSign c := by
  unfold isVersion6 at h
  split at h
  · rename_i before after hgap
    dsimp only at h
    split at h
    · rename_i m n hbefore hafter
      rw [splitGap_eq_some hgap] at hc
      rcases List.mem_append.1 hc with hc | hc
      · exact isSign_of_groups? hbefore hc
      · rcases List.mem_cons.1 hc with rfl | hc
        · decide
        · rcases List.mem_cons.1 hc with rfl | hc
          · decide
          · exact isSign_of_groups? hafter hc
    · cases h
  · exact isSign_of_groups? (beq_iff_eq.1 h) hc

theorem colon_mem_of_isVersion6 (h : isVersion6 cs) : ':' ∈ cs := by
  unfold isVersion6 at h
  split at h
  · rename_i before after hgap
    rw [splitGap_eq_some hgap]
    exact List.mem_append_right _ List.mem_cons_self
  · -- one group alone takes two places at most
    by_contra hnot
    have height := beq_iff_eq.1 h
    unfold groups? at height
    rw [splitAll_of_notMem hnot] at height
    split at height
    · cases height
    · dsimp only at height
      split at height
      · cases height
      · split at height <;> cases height

end Host

/-! ## Addresses of requests -/

namespace Url

variable {cs host ds path : List Char} {url : String}

/-- There is nothing to clean where there are no blanks. -/
theorem clean_eq_self (h : ∀ c ∈ cs, 0x20 < c.toNat) : clean cs = cs := by
  have hdrop (l : List Char) (hl : ∀ c ∈ l, 0x20 < c.toNat) :
      l.dropWhile (fun c => decide (c.toNat ≤ 0x20)) = l := by
    cases l with
    | nil => rfl
    | cons c l => exact List.dropWhile_cons_of_neg (by simpa using hl c List.mem_cons_self)
  unfold clean
  dsimp only
  rw [hdrop cs h, hdrop cs.reverse fun c hc => h c (List.mem_reverse.1 hc), List.reverse_reverse]
  refine List.filter_eq_self.2 fun c hc => decide_eq_true ?_
  have hblank := h c hc
  refine ⟨?_, ?_, ?_⟩ <;> rintro rfl <;> exact absurd hblank (by decide)

/-- Without brackets, a host ends at the first colon. -/
theorem splitPort_eq (h : '[' ∉ cs) :
    splitPort cs = (cs.takeWhile (· ≠ ':'), cs.dropWhile (· ≠ ':')) := by
  unfold splitPort
  induction cs with
  | nil => rfl
  | cons c cs ih =>
    obtain ⟨hne, hnot⟩ := List.ne_and_not_mem_of_not_mem_cons h
    have hinside : (if c = '[' then true else if c = ']' then false else false) = false := by
      rw [if_neg hne.symm, ite_self]
    rw [splitPort.go]
    by_cases hcolon : c = ':'
    · simp [hcolon]
    · rw [if_neg (by simp [hcolon]), List.takeWhile_cons_of_pos (by simpa using hcolon),
        List.dropWhile_cons_of_pos (by simpa using hcolon)]
      dsimp only
      rw [hinside, ih hnot]

theorem not_isSlash_of_isSign {c : Char} (h : Host.isSign c) : isSlash c = false := by
  simp only [isSlash, Bool.or_eq_false_iff, beq_eq_false_iff_ne]
  constructor <;> rintro rfl <;> exact absurd h (by decide)

/-- What stands between the slashes, as long as it has signs of hosts only. -/
theorem authority_append (hne : cs ≠ []) (h : ∀ c ∈ cs, Host.isSign c) (path : List Char) :
    authority ('/' :: '/' :: (cs ++ '/' :: path)) = cs := by
  have hstart : ('/' :: '/' :: (cs ++ '/' :: path)).dropWhile isSlash = cs ++ '/' :: path := by
    obtain ⟨c, l, rfl⟩ := List.exists_cons_of_ne_nil hne
    have hc := not_isSlash_of_isSign (h c List.mem_cons_self)
    rw [List.dropWhile_cons_of_pos rfl, List.dropWhile_cons_of_pos rfl, List.cons_append,
      List.dropWhile_cons_of_neg (by simp [hc])]
  have hinside : ∀ c ∈ cs, (!(isSlash c || c == '?' || c == '#')) = true := by
    intro c hc
    have hsign := h c hc
    have hmark : c ≠ '?' ∧ c ≠ '#' := by
      constructor <;> rintro rfl <;> exact absurd hsign (by decide)
    simp [not_isSlash_of_isSign hsign, hmark]
  rw [authority, hstart, List.takeWhile_append_of_pos hinside,
    List.takeWhile_cons_of_neg (by decide), List.append_nil]

/-- The host and the port of a request whose address has nothing else before the path. -/
theorem isHttp_eq (hurl : url.toList = "http://".toList ++ (cs ++ '/' :: path)) (hne : cs ≠ [])
    (hcs : ∀ c ∈ cs, Host.isSign c) (hpath : ∀ c ∈ path, 0x20 < c.toNat) :
    isHttp url = (Host.isValid (cs.takeWhile (· ≠ ':')) && isPort (cs.dropWhile (· ≠ ':'))) := by
  have hnot {c : Char} (hc : Host.isSign c = false) : c ∉ cs :=
    fun hmem => Bool.false_ne_true (hc.symm.trans (hcs c hmem))
  have hclean : clean url.toList = url.toList := by
    have hstart : ∀ c ∈ "http://".toList, 0x20 < c.toNat := by simp
    refine clean_eq_self fun c hc => ?_
    rw [hurl] at hc
    rcases List.mem_append.1 hc with hc | hc
    · exact hstart c hc
    · rcases List.mem_append.1 hc with hc | hc
      · exact Host.blank_lt_of_isSign (hcs c hc)
      · rcases List.mem_cons.1 hc with rfl | hc
        · decide
        · exact hpath c hc
  have hscheme : afterScheme url.toList = some ('/' :: '/' :: (cs ++ '/' :: path)) := by
    have hcolon : ':' ∉ "http".toList := by decide
    have hsplit : splitOnce ':' url.toList =
        some ("http".toList, '/' :: '/' :: (cs ++ '/' :: path)) := by
      rw [hurl]
      exact splitOnce_append hcolon _
    rw [afterScheme, hsplit]
    rfl
  have hhostAndPort : hostAndPort cs = cs := by
    have hat : '@' ∉ cs.reverse := fun hmem => hnot (by decide) (List.mem_reverse.1 hmem)
    rw [hostAndPort, splitOnceLast, splitOnce_of_notMem hat]
    rfl
  rw [isHttp, hclean, hscheme]
  dsimp only
  rw [authority_append hne hcs, hhostAndPort, splitPort_eq (hnot (by decide))]

theorem isSign_append {host ds : List Char} (hhost : ∀ c ∈ host, Host.isSign c)
    (hds : ∀ c ∈ ds, c.isDigit) : ∀ c ∈ host ++ ':' :: ds, Host.isSign c := by
  intro c hc
  rcases List.mem_append.1 hc with hc | hc
  · exact hhost c hc
  · rcases List.mem_cons.1 hc with rfl | hc
    · decide
    · exact Host.isSign_of_isAlphanum (Host.isAlphanum_of_isDigit (hds c hc))

/-- A text is cut at a colon if there is none before. -/
theorem cut_append {host : List Char} (h : ':' ∉ host) (ds : List Char) :
    (host ++ ':' :: ds).takeWhile (· ≠ ':') = host ∧
      (host ++ ':' :: ds).dropWhile (· ≠ ':') = ':' :: ds := by
  have hbefore : ∀ c ∈ host, decide (c ≠ ':') = true :=
    fun c hc => decide_eq_true fun heq => h (heq ▸ hc)
  rw [List.takeWhile_append_of_pos hbefore, List.dropWhile_append_of_pos hbefore]
  simp

section

variable {host ds : List Char} {n : Nat}

/-- A request can be sent to a number of version four. -/
theorem isHttp_of_isDotted (hhost : Host.isDotted host) (hds : Numeral ds n) (hn : n < 65536)
    (hurl : url.toList = "http://".toList ++ (host ++ ':' :: ds ++ '/' :: path))
    (hpath : ∀ c ∈ path, 0x20 < c.toNat) : isHttp url := by
  have hsign := isSign_append (fun c hc => Host.isSign_of_isDotted hhost hc) hds.digits
  have hcolon : ':' ∉ host :=
    fun hmem => (Host.isDigit_of_isDotted hhost hmem).elim (absurd · (by decide))
      (absurd · (by decide))
  have hport : isPort (':' :: ds) := by
    have hdigits : ds.all Char.isDigit := List.all_eq_true.2 hds.digits
    rw [isPort, hdigits, hds.value]
    exact decide_eq_true hn
  obtain ⟨hbefore, hafter⟩ := cut_append hcolon ds
  rw [isHttp_eq hurl (by simp) hsign hpath, hbefore, hafter, Host.isValid_of_isDotted hhost, hport]
  rfl

/-- A request cannot be sent to a number of version six without brackets. -/
theorem isHttp_of_isVersion6 (hhost : Host.isVersion6 host) (hds : ∀ c ∈ ds, c.isDigit)
    (hurl : url.toList = "http://".toList ++ (host ++ ':' :: ds ++ '/' :: path))
    (hpath : ∀ c ∈ path, 0x20 < c.toNat) : isHttp url = false := by
  have hsign := isSign_append (fun c hc => Host.isSign_of_isVersion6 hhost hc) hds
  -- from the first colon of the host on, all is read as the port
  obtain ⟨before, after, rfl, hnot⟩ :=
    List.eq_append_cons_of_mem (Host.colon_mem_of_isVersion6 hhost)
  have hport : isPort (':' :: (after ++ ':' :: ds)) = false := by
    have hdigits : (after ++ ':' :: ds).all Char.isDigit = false :=
      List.all_eq_false.2 ⟨':', by simp, by decide⟩
    rw [isPort, hdigits, Bool.false_and]
  have hcut : (before ++ ':' :: after ++ ':' :: ds) = before ++ ':' :: (after ++ ':' :: ds) := by
    simp
  rw [isHttp_eq hurl (by simp) hsign hpath, hcut, (cut_append hnot _).2, hport, Bool.and_false]

end

end Url

end GridOperator
