import GridOperator.Management.Endpoint
import GridOperator.Proofs.Desired.MapSection
import GridOperator.Proofs.Results
import GridOperator.Proofs.Text.Cutting
import GridOperator.Proofs.Text.Octets

/-!
# Forms that members read

Members take the form of a request apart at its ampersands and undo the escapes of each
part (`Form.parts?`). The form is written without any escapes, so a name of a cluster is
read as another one, or as more than one part, if it has signs that mean something in
forms. `Cluster.credentials_iff` says which names members recognize as their own.
-/

namespace GridOperator

open Text

/-! ## Reading a form -/

namespace Form

/-- The octets that a part of a form stands for. Readers differ in what a percent sign means that
begins no escape: for a lenient one it stands for itself, others refuse it. -/
def octets? (lenient : Bool) : List Char → Option (List UInt8)
  | [] => some []
  | '%' :: a :: b :: cs =>
    match digit? 16 a, digit? 16 b with
    | some x, some y => (octets? lenient cs).map (UInt8.ofNat (x * 16 + y) :: ·)
    | _, _ => if lenient then (octets? lenient (a :: b :: cs)).map (0x25 :: ·) else none
  | c :: cs =>
    if c = '+' then (octets? lenient cs).map (0x20 :: ·)
    else if c = '%' ∧ !lenient then none
    else (octets? lenient cs).map (String.utf8EncodeChar c ++ ·)

/-- The text that a part of a form stands for. -/
def text? (lenient : Bool) (cs : List Char) : Option (List Char) :=
  (octets? lenient cs).bind ofOctets?

/-- The texts of all parts of a form. -/
def parts? (lenient : Bool) (form : String) : Option (List String) :=
  (splitAll '&' form.toList).mapM fun part => (text? lenient part).map String.ofList

/-- Whether a text begins with an escape. -/
def startsEscape : List Char → Bool
  | '%' :: a :: b :: _ => (digit? 16 a).isSome && (digit? 16 b).isSome
  | _ => false

/-- Whether a text stands for itself in a form: it has no plus sign, nor an escape, nor a percent
sign that would be refused. -/
structure Plain (lenient : Bool) (cs : List Char) : Prop where
  plus : '+' ∉ cs
  escape : ∀ part, part <:+ cs → startsEscape part = false
  percent : lenient = false → '%' ∉ cs

variable {lenient : Bool} {cs : List Char} {os : List UInt8} {c : Char}

theorem plain_nil : Plain lenient [] where
  plus := List.not_mem_nil
  escape part h := by
    rw [List.suffix_nil.1 h]
    rfl
  percent _ := List.not_mem_nil

theorem plain_cons_iff : Plain lenient (c :: cs) ↔
    c ≠ '+' ∧ startsEscape (c :: cs) = false ∧ (lenient = false → c ≠ '%') ∧ Plain lenient cs := by
  constructor
  · rintro ⟨hplus, hescape, hpercent⟩
    obtain ⟨hne, hplus⟩ := List.ne_and_not_mem_of_not_mem_cons hplus
    exact ⟨hne.symm, hescape _ (List.suffix_refl _),
      fun hstrict => (List.ne_and_not_mem_of_not_mem_cons (hpercent hstrict)).1.symm,
      ⟨hplus, fun part h => hescape part (h.trans (List.suffix_cons _ _)),
        fun hstrict => (List.ne_and_not_mem_of_not_mem_cons (hpercent hstrict)).2⟩⟩
  · rintro ⟨hne, hstarts, hnot, hplus, hescape, hpercent⟩
    refine ⟨List.not_mem_cons_of_ne_of_not_mem hne.symm hplus, fun part h => ?_,
      fun hstrict => List.not_mem_cons_of_ne_of_not_mem (hnot hstrict).symm (hpercent hstrict)⟩
    rcases List.suffix_cons_iff.1 h with rfl | h
    · exact hstarts
    · exact hescape part h

theorem percent_mem_of_startsEscape (h : startsEscape cs) : '%' ∈ cs := by
  unfold startsEscape at h
  split at h
  · exact List.mem_cons_self
  · cases h

theorem plain_of_notMem (hplus : '+' ∉ cs) (hpercent : '%' ∉ cs) : Plain lenient cs where
  plus := hplus
  escape _ hpart := Bool.eq_false_iff.2 fun hstarts =>
    hpercent (hpart.subset (percent_mem_of_startsEscape hstarts))
  percent _ := hpercent

theorem startsEscape_of_digits {a b : Char} {x y : Nat} (ha : digit? 16 a = some x)
    (hb : digit? 16 b = some y) (cs : List Char) : startsEscape ('%' :: a :: b :: cs) := by
  rw [startsEscape, ha, hb]
  rfl

theorem startsEscape_eq_false {a b : Char}
    (h : ∀ x y, digit? 16 a = some x → digit? 16 b = some y → False) (cs : List Char) :
    startsEscape ('%' :: a :: b :: cs) = false := by
  rw [startsEscape]
  cases ha : digit? 16 a with
  | none => rfl
  | some x =>
    cases hb : digit? 16 b with
    | none => rfl
    | some y => exact absurd hb (h x y ha)

theorem startsEscape_of_short (h : ∀ a b rest, c = '%' → cs = a :: b :: rest → False) :
    startsEscape (c :: cs) = false := by
  unfold startsEscape
  split
  · rename_i heq
    obtain ⟨hc, hcs⟩ := List.cons.inj heq
    exact (h _ _ _ hc hcs).elim
  · rfl

theorem length_octets_cons_lt (c : Char) (cs : List Char) :
    (octets cs).length < (octets (c :: cs)).length := by
  have hpos := c.utf8Size_pos
  rw [octets_cons, List.length_append, String.length_utf8EncodeChar]
  omega

theorem length_octets_add_three_le (c a b : Char) (cs : List Char) :
    (octets cs).length + 3 ≤ (octets (c :: a :: b :: cs)).length := by
  have hb := length_octets_cons_lt b cs
  have ha := length_octets_cons_lt a (b :: cs)
  have hc := length_octets_cons_lt c (a :: b :: cs)
  omega

/-- Undoing escapes never makes more octets. -/
theorem length_le_of_octets? (h : octets? lenient cs = some os) :
    os.length ≤ (octets cs).length := by
  fun_induction octets? lenient cs generalizing os with
  | case1 =>
    obtain rfl := Option.some.inj h
    exact le_rfl
  | case2 a b cs x y _ _ ih =>
    obtain ⟨rest, hrest, rfl⟩ := Option.map_eq_some_iff.1 h
    have hle := ih hrest
    have hescape := length_octets_add_three_le '%' a b cs
    rw [List.length_cons]
    omega
  | case3 a b cs _ _ ih =>
    obtain ⟨rest, hrest, rfl⟩ := Option.map_eq_some_iff.1 h
    exact Nat.succ_le_succ (ih hrest)
  | case4 => cases h
  | case5 cs _ ih =>
    obtain ⟨rest, hrest, rfl⟩ := Option.map_eq_some_iff.1 h
    exact Nat.succ_le_succ (ih hrest)
  | case6 => cases h
  | case7 c cs _ _ _ ih =>
    obtain ⟨rest, hrest, rfl⟩ := Option.map_eq_some_iff.1 h
    rw [octets_cons, List.length_append, List.length_append]
    exact Nat.add_le_add_left (ih hrest) _

theorem map_append_eq_some_iff (start : List UInt8) (rest : Option (List UInt8)) :
    rest.map (start ++ ·) = some (start ++ os) ↔ rest = some os := by
  cases rest <;> simp

/-- Octets stay the same only where there is nothing to undo: an escape is longer than what it
stands for, and a plus sign stands for a blank. -/
theorem octets?_eq_octets_iff : octets? lenient cs = some (octets cs) ↔ Plain lenient cs := by
  fun_induction octets? lenient cs with
  | case1 => exact iff_of_true rfl plain_nil
  | case2 a b cs x y hb ha _ =>
    refine iff_of_false (fun h => ?_) fun hplain => ?_
    · obtain ⟨rest, hrest, heq⟩ := Option.map_eq_some_iff.1 h
      have hlength := congrArg List.length heq
      have hle := length_le_of_octets? hrest
      have hescape := length_octets_add_three_le '%' a b cs
      rw [List.length_cons] at hlength
      omega
    · exact Bool.false_ne_true ((plain_cons_iff.1 hplain).2.1.symm.trans
        (startsEscape_of_digits ha hb cs))
  | case3 a b cs hlenient hdigits ih =>
    have hstrict : lenient = false → '%' ≠ '%' := by simp [hlenient]
    rw [plain_cons_iff, ← ih, startsEscape_eq_false hdigits cs]
    refine (map_append_eq_some_iff [0x25] _).trans ?_
    exact ⟨fun h => ⟨by decide, rfl, hstrict, h⟩, fun h => h.2.2.2⟩
  | case4 a b cs hstrict _ =>
    refine iff_of_false nofun fun hplain => ?_
    exact hplain.percent (Bool.eq_false_iff.2 hstrict) List.mem_cons_self
  | case5 cs _ _ =>
    refine iff_of_false (fun h => ?_) fun hplain => hplain.plus List.mem_cons_self
    obtain ⟨rest, -, heq⟩ := Option.map_eq_some_iff.1 h
    exact absurd (List.cons.inj heq).1 (by decide)
  | case6 c cs _ _ hpercent =>
    refine iff_of_false nofun fun hplain => ?_
    obtain ⟨rfl, hstrict⟩ := hpercent
    exact hplain.percent (by simpa using hstrict) List.mem_cons_self
  | case7 c cs hshort hplus hpercent ih =>
    rw [octets_cons, map_append_eq_some_iff, ih, plain_cons_iff, startsEscape_of_short hshort]
    have hstrict : lenient = false → c ≠ '%' := fun hlenient hc => hpercent ⟨hc, by simp [hlenient]⟩
    exact ⟨fun hplain => ⟨hplus, rfl, hstrict, hplain⟩, fun h => h.2.2.2⟩

/-- The texts that are read as they are. -/
theorem text?_eq_self_iff : text? lenient cs = some cs ↔ Plain lenient cs := by
  rw [text?, Option.bind_eq_some_iff, ← octets?_eq_octets_iff]
  constructor
  · rintro ⟨os, hos, htext⟩
    rw [hos, ofOctets?_eq_some_iff.1 htext]
  · intro hos
    exact ⟨_, hos, ofOctets?_eq_some_iff.2 rfl⟩

end Form

/-! ## Credentials -/

/-- The name that members run under, which the configuration may leave to them. -/
def Yaml.clusterName (file : Yaml) : String :=
  match file.field? "cluster-name" with
  | some (.str name) => name
  | _ => "dev"

/-! ### The words for modes -/

namespace ClusterState

theorem asciiLower_name (state : ClusterState) :
    asciiLower state.name = match state with | active => "active" | passive => "passive" := by
  cases state <;> decide +kernel

theorem parse_asciiLower_name (state : ClusterState) :
    parse (asciiLower state.name) = .ok state := by
  have hactive : asciiLower "active" = "active" := by decide +kernel
  have hpassive : asciiLower "passive" = "passive" := by decide +kernel
  rw [asciiLower_name, parse]
  cases state with
  | active =>
    dsimp only
    rw [hactive]
    rfl
  | passive =>
    dsimp only
    rw [hpassive, if_neg (by decide)]
    rfl

end ClusterState

theorem ManageCall.isAlphanum_of_argument? {call : ManageCall} {word : String}
    (h : call.argument? = some word) : ∀ c ∈ word.toList, c.isAlphanum := by
  cases call with
  | changeState state =>
    obtain rfl := Option.some.inj h
    rw [ClusterState.asciiLower_name]
    cases state <;> simp
  | getState => cases h
  | forceStart => cases h
  | hotBackup => cases h

/-! ### The parts of a form -/

/-- The parts of the form of an operation for the cluster of a name: the name, no password, and the
mode that the cluster is to change to. -/
inductive Credentials (name : String) : ManageCall → List String → Prop where
  | changeState {state : ClusterState} {word : String} (h : ClusterState.parse word = .ok state) :
    Credentials name (.changeState state) [name, "", word]
  | other {call : ManageCall} (h : call.argument? = none) : Credentials name call [name, ""]

namespace Credentials

variable {name : String} {call : ManageCall} {parts : List String}

theorem length_eq (h : Credentials name call parts) :
    parts.length = 2 + call.argument?.toList.length := by
  cases h with
  | changeState => rfl
  | other hnone =>
    rw [hnone]
    rfl

theorem exists_cons (h : Credentials name call parts) : ∃ rest, parts = name :: rest := by
  cases h <;> exact ⟨_, rfl⟩

theorem of_argument? (name : String) (call : ManageCall) :
    Credentials name call (name :: "" :: call.argument?.toList) := by
  cases call with
  | changeState state => exact .changeState (ClusterState.parse_asciiLower_name state)
  | getState => exact .other rfl
  | forceStart => exact .other rfl
  | hotBackup => exact .other rfl

end Credentials

namespace Endpoint

/-- Whether an endpoint is a member of a cluster, or its discovery service. -/
inductive Of (c : Cluster) : Endpoint → Prop where
  | cluster : Of c (ofCluster c)
  | member (ip : String) : Of c (ofMember c ip)

variable {e : Endpoint} {call : ManageCall} {lenient : Bool} {members : String}

theorem splitAll_body (e : Endpoint) (call : ManageCall) :
    splitAll '&' (e.request call).body.toList =
      splitAll '&' e.clusterName.toList ++ [] :: call.argument?.toList.map String.toList := by
  have hseparator : "&".toList = ['&'] := rfl
  have hbody : (e.request call).body.toList = e.clusterName.toList ++
      '&' :: (call.argument?.elim [] fun word => '&' :: word.toList) := by
    unfold request
    cases call.argument? <;> simp [hseparator]
  rw [hbody, splitAll_append_cons]
  cases hword : call.argument? with
  | none => rfl
  | some word =>
    have hnot : '&' ∉ word.toList := fun hmem =>
      absurd (ManageCall.isAlphanum_of_argument? hword _ hmem) (by decide)
    have hparts := splitAll_of_notMem hnot
    show _ ++ splitAll '&' ([] ++ '&' :: word.toList) = _ ++ [] :: [word.toList]
    rw [splitAll_append List.not_mem_nil, hparts]

/-- The parts after the name are read as they are. -/
theorem mapM_argument? (call : ManageCall) (lenient : Bool) :
    ([] :: call.argument?.toList.map String.toList).mapM
        (fun part => (Form.text? lenient part).map String.ofList) =
      some ("" :: call.argument?.toList) := by
  have hnil : (Form.text? lenient []).map String.ofList = some "" := by
    rw [Form.text?_eq_self_iff.2 Form.plain_nil]
    rfl
  refine List.mapM_cons_eq_some_iff.2 ⟨"", _, hnil, ?_, rfl⟩
  cases hword : call.argument? with
  | none => rfl
  | some word =>
    have halnum := ManageCall.isAlphanum_of_argument? hword
    have hplain : Form.Plain lenient word.toList :=
      Form.plain_of_notMem (fun hmem => absurd (halnum _ hmem) (by decide))
        fun hmem => absurd (halnum _ hmem) (by decide)
    refine List.mapM_cons_eq_some_iff.2 ⟨word, [], ?_, rfl, rfl⟩
    rw [Form.text?_eq_self_iff.2 hplain, Option.map_some, String.ofList_toList]

/-- The form is recognized by members of a name if the name of the endpoint is one part of it and is
read as theirs. -/
theorem recognized_iff : (∃ parts, Form.parts? lenient (e.request call).body = some parts ∧
      Credentials members call parts) ↔
    '&' ∉ e.clusterName.toList ∧ Form.text? lenient e.clusterName.toList = some members.toList := by
  unfold Form.parts?
  rw [splitAll_body]
  constructor
  · rintro ⟨parts, hparts, hcredentials⟩
    have hlength := List.length_of_mapM_eq_some hparts
    rw [hcredentials.length_eq, List.length_append, List.length_cons, List.length_map] at hlength
    have hnot : '&' ∉ e.clusterName.toList := notMem_of_length_splitAll (by omega)
    rw [splitAll_of_notMem hnot] at hparts
    obtain ⟨first, rest, hfirst, -, rfl⟩ := List.mapM_cons_eq_some_iff.1 hparts
    obtain ⟨_, heq⟩ := hcredentials.exists_cons
    obtain ⟨rfl, -⟩ := List.cons.inj heq
    obtain ⟨text, htext, rfl⟩ := Option.map_eq_some_iff.1 hfirst
    exact ⟨hnot, by rw [htext, String.toList_ofList]⟩
  · rintro ⟨hnot, htext⟩
    refine ⟨_, ?_, Credentials.of_argument? members call⟩
    rw [splitAll_of_notMem hnot]
    refine List.mapM_cons_eq_some_iff.2 ⟨members, _, ?_, mapM_argument? call lenient, rfl⟩
    rw [htext, Option.map_some, String.ofList_toList]

end Endpoint

namespace Cluster

theorem clusterName_toYaml (config : MemberConfig) : config.toYaml.clusterName =
    if config.clusterName = "" then "dev" else config.clusterName := by
  have hfield : config.toYaml.field? "cluster-name" = Yaml.nonempty config.clusterName := by
    unfold MemberConfig.toYaml
    rw [Yaml.field?_ofSome (by simp)]
    rfl
  unfold Yaml.clusterName
  rw [hfield, Yaml.nonempty]
  by_cases hempty : config.clusterName = "" <;> simp [hempty]

/-- Members recognize the credentials of every operation exactly if the cluster has a name, which
stands for itself in a form and has no ampersand. -/
theorem credentials_iff (c : Cluster) (maps : List DataMap) :
    ∃ file : Yaml, (c.configMap maps).data =
        some [(Names.configFile, Yaml.render [("hazelcast", file)])] ∧
      file.clusterName = (if c.spec.clusterName = "" then "dev" else c.spec.clusterName) ∧
      ∀ e call lenient, Endpoint.Of c e →
        ((∃ parts, Form.parts? lenient (e.request call).body = some parts ∧
            Credentials file.clusterName call parts) ↔
          c.spec.clusterName ≠ "" ∧ '&' ∉ c.spec.clusterName.toList ∧
            Form.Plain lenient c.spec.clusterName.toList) := by
  have hmembers := clusterName_toYaml (c.memberConfig maps)
  refine ⟨(c.memberConfig maps).toYaml, rfl, hmembers, fun e call lenient hof => ?_⟩
  have hname : e.clusterName = c.spec.clusterName := by cases hof <;> rfl
  have hconfig : (c.memberConfig maps).clusterName = c.spec.clusterName := rfl
  rw [Endpoint.recognized_iff, hmembers, hname, hconfig]
  by_cases hempty : c.spec.clusterName = ""
  · -- members without a name go by another one, and nothing is sent
    refine iff_of_false (fun h => ?_) fun h => h.1 hempty
    have htext := h.2
    rw [hempty] at htext
    exact absurd ((Form.text?_eq_self_iff.2 Form.plain_nil).symm.trans htext) (by decide)
  · rw [if_neg hempty, Form.text?_eq_self_iff, and_iff_right hempty]

/-- A cluster of a name. -/
def ofName (name : String) : Cluster :=
  { restoring with spec := { restoring.spec with clusterName := name } }

/-- Whether members do not recognize what asks for their mode. -/
def Unrecognized (c : Cluster) : Prop :=
  ∃ file : Yaml, (c.configMap []).data =
      some [(Names.configFile, Yaml.render [("hazelcast", file)])] ∧
    ¬ ∃ parts, Form.parts? false ((Endpoint.ofCluster c).request .getState).body = some parts ∧
      Credentials file.clusterName .getState parts

/-- Members of neither of these names recognize it. -/
theorem credentials_iff_signs :
    (ofName "").Unrecognized ∧ (ofName "a&b").Unrecognized ∧ (ofName "a+b").Unrecognized ∧
      (ofName "a%41").Unrecognized := by
  have hmembers (name : String)
      (h : ¬ (name ≠ "" ∧ '&' ∉ name.toList ∧ Form.Plain false name.toList)) :
      (ofName name).Unrecognized := by
    obtain ⟨file, hdata, -, hiff⟩ := credentials_iff (ofName name) []
    exact ⟨file, hdata, fun hrecognized => h ((hiff _ .getState false .cluster).1 hrecognized)⟩
  refine ⟨hmembers _ fun h => h.1 rfl, hmembers _ fun h => ?_, hmembers _ fun h => ?_,
    hmembers _ fun h => ?_⟩
  · exact h.2.1 (by decide)
  · exact h.2.2.plus (by decide)
  · exact h.2.2.percent rfl (by decide)

/-- An ampersand makes a part more. -/
example : Form.parts? false ((Endpoint.ofCluster (ofName "a&b")).request .getState).body =
    some ["a", "b", ""] := by decide +kernel

end Cluster

end GridOperator
