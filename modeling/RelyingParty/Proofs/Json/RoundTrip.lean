import Mathlib.Data.List.DropRight
import Mathlib.Data.List.Forall2
import RelyingParty.Json.Parser
import RelyingParty.Json.Printer
import RelyingParty.Proofs.Document.Rearrangement

/-!
# JSON texts are read as they are written

A document is written and its text is read. Texts and scalars come back as they are, lists item by
item, and tables with their members in the order of their keys (`Denotes`). The parser may be given
more to read than the text of the document and returns the rest, which is what the induction over
lists and tables needs; its fuel is counted in characters.

Where the members of a table have different keys none is lost, so a record is read as the record in
another order (`rereads_table`). This is one of the edits that readers do not notice.
-/

namespace RelyingParty.Json

open Document (Entry ListEdit Part Rule TableEdit edits_fields edits_items lookup_rulesOf
  map_fst_rulesOf rulesOf)
open Relation (ReflTransGen)

/-! ## Strings -/

theorem fourDigits_append {cs rest : List Char} {n : Nat} (h : fourDigits cs = some (n, [])) :
    fourDigits (cs ++ rest) = some (n, rest) := by
  match cs, h with
  | a :: b :: c :: d :: cs, h =>
      simp only [fourDigits, Option.bind_eq_bind, Option.bind_eq_some_iff, Option.some.injEq,
        Prod.mk.injEq] at h
      obtain ⟨a', ha, b', hb, c', hc, d', hd, rfl, rfl⟩ := h
      simp [fourDigits, ha, hb, hc, hd]

theorem fourDigits_control : ∀ n < 32,
    fourDigits ('0' :: '0' :: (if n < 16 then ['0'] else []) ++ Nat.toDigits 16 n)
      = some (n, []) := by
  decide

theorem escapeChar_control {c : Char} (h : c < ' ') (rest : List Char) :
    escapeChar ('u' :: '0' :: '0' :: (if c.toNat < 16 then ['0'] else [])
      ++ Nat.toDigits 16 c.toNat ++ rest) = some (c, rest) := by
  have hn : c.toNat < 32 := h
  have hdigits := @fourDigits_append _ rest _ (fourDigits_control c.toNat hn)
  have hlow : ¬ (0xD800 ≤ c.toNat ∧ c.toNat < 0xDC00) := by omega
  have hhigh : ¬ (0xDC00 ≤ c.toNat ∧ c.toNat < 0xE000) := by omega
  simp only [List.cons_append, List.append_assoc] at hdigits ⊢
  simp [escapeChar, codeEscape, hdigits, hlow, hhigh]

/-- A character is written behind a backslash, in a way from which it is read back, or else it
stands for itself. -/
theorem escape_cases (c : Char) :
    (∃ e, escape c = '\\' :: e ∧ ∀ rest, escapeChar (e ++ rest) = some (c, rest)) ∨
      (escape c = [c] ∧ c ≠ '"' ∧ c ≠ '\\' ∧ ¬ c < ' ') := by
  by_cases hquote : c = '"'
  · subst hquote
    exact Or.inl ⟨['"'], rfl, fun rest => rfl⟩
  by_cases hslash : c = '\\'
  · subst hslash
    exact Or.inl ⟨['\\'], rfl, fun rest => rfl⟩
  by_cases hcontrol : c < ' '
  · left
    rw [escape, if_neg (by simp [hquote, hslash])]
    -- the controls with a letter of their own, then all others
    split
    case isTrue hc => exact ⟨['b'], rfl, fun rest => hc ▸ rfl⟩
    split
    case isTrue hc => exact ⟨['t'], rfl, fun rest => hc ▸ rfl⟩
    split
    case isTrue hc => exact ⟨['n'], rfl, fun rest => hc ▸ rfl⟩
    split
    case isTrue hc => exact ⟨['f'], rfl, fun rest => hc ▸ rfl⟩
    split
    case isTrue hc => exact ⟨['r'], rfl, fun rest => hc ▸ rfl⟩
    exact ⟨_, rfl, escapeChar_control hcontrol⟩
  · refine Or.inr ⟨?_, hquote, hslash, hcontrol⟩
    have hshort : ∀ d : Char, d < ' ' → c ≠ d := fun d hd he => hcontrol (he ▸ hd)
    rw [escape, if_neg (by simp [hquote, hslash]), if_neg (hshort _ (by decide)),
      if_neg (hshort _ (by decide)), if_neg (hshort _ (by decide)), if_neg (hshort _ (by decide)),
      if_neg (hshort _ (by decide)), if_neg hcontrol]

theorem stringChars_escape (c : Char) (fuel : Nat) (rest : List Char) :
    stringChars (fuel + 1) (escape c ++ rest)
      = (stringChars fuel rest).map fun p => (c :: p.1, p.2) := by
  rcases escape_cases c with ⟨e, he, hread⟩ | ⟨he, hquote, hslash, hcontrol⟩
  · rw [he, List.cons_append, stringChars, hread]
    simp only [Option.bind_eq_bind, Option.bind_some]
    cases stringChars fuel rest <;> rfl
  · rw [he, List.singleton_append, stringChars, if_neg hcontrol]
    · cases stringChars fuel rest <;> rfl
    · exact hquote
    · exact hslash

/-- The characters of a text are read back up to the closing quote. -/
theorem stringChars_escaped (cs rest : List Char) (fuel : Nat) (h : cs.length < fuel) :
    stringChars fuel (cs.flatMap escape ++ '"' :: rest) = some (cs, rest) := by
  induction cs generalizing fuel with
  | nil =>
      obtain ⟨fuel, rfl⟩ := Nat.exists_eq_add_one.mpr h
      rfl
  | cons c cs ih =>
      obtain ⟨fuel, rfl⟩ := Nat.exists_eq_add_one.mpr (Nat.zero_lt_of_lt h)
      rw [List.flatMap_cons, List.append_assoc, stringChars_escape,
        ih fuel (Nat.lt_of_succ_lt_succ h)]
      rfl

theorem length_le_length_escaped (cs : List Char) : cs.length ≤ (cs.flatMap escape).length := by
  induction cs with
  | nil => exact Nat.le_refl 0
  | cons c cs ih =>
      have hc : 0 < (escape c).length := by
        rcases escape_cases c with ⟨e, he, -⟩ | ⟨he, -⟩ <;> rw [he] <;> exact Nat.zero_lt_succ _
      rw [List.flatMap_cons, List.length_append, List.length_cons]
      omega

theorem string_quoted (s : String) (rest : List Char) :
    string (s.toList.flatMap escape ++ '"' :: rest) = some (s, rest) := by
  have hlength := length_le_length_escaped s.toList
  rw [string, stringChars_escaped _ _ _ (by rw [List.length_append]; omega)]
  exact congrArg (fun t => some (t, rest)) String.ofList_toList

theorem toList_quoted (s : String) :
    (quoted s).toList = '"' :: (s.toList.flatMap escape ++ ['"']) := by
  rw [quoted, String.toList_ofList, List.cons_append]

/-! ## Values -/

/-- The text of the first document is read as the second, whatever follows it. -/
def Denotes (d d' : Document) : Prop :=
  ∀ fuel rest, (compact d).toList.length ≤ fuel →
    value fuel ((compact d).toList ++ rest) = some (d', rest)

theorem denotes_of_cons {d d' : Document} {c : Char} {cs : List Char}
    (htext : (compact d).toList = c :: cs)
    (h : ∀ fuel rest, cs.length ≤ fuel → value (fuel + 1) (c :: (cs ++ rest)) = some (d', rest)) :
    Denotes d d' := by
  intro fuel rest hfuel
  rw [htext] at hfuel ⊢
  obtain ⟨fuel, rfl⟩ := Nat.exists_eq_add_one.mpr (Nat.lt_of_lt_of_le (Nat.zero_lt_succ _) hfuel)
  exact h fuel rest (Nat.le_of_succ_le_succ hfuel)

theorem denotes_null : Denotes .null .null := by
  have htext : (compact .null).toList = ['n', 'u', 'l', 'l'] := by simp [compact, scalar]
  exact denotes_of_cons htext fun _ _ _ => rfl

theorem denotes_bool (b : Bool) : Denotes (.bool b) (.bool b) := by
  cases b with
  | false =>
      have htext : (compact (.bool false)).toList = ['f', 'a', 'l', 's', 'e'] := by
        simp [compact, scalar]
      exact denotes_of_cons htext fun _ _ _ => rfl
  | true =>
      have htext : (compact (.bool true)).toList = ['t', 'r', 'u', 'e'] := by
        simp [compact, scalar]
      exact denotes_of_cons htext fun _ _ _ => rfl

theorem denotes_text (s : String) : Denotes (.text s) (.text s) := by
  refine denotes_of_cons (toList_quoted s) ?_
  intro fuel rest _
  rw [List.append_assoc, List.singleton_append, value]
  show (string (s.toList.flatMap escape ++ '"' :: rest)).bind _ = _
  rw [string_quoted]
  rfl

/-! ## Sequences -/

/-- A parser of sequences reads what the texts of the items say: after each item it stops at the
closing character or goes on after a comma. -/
structure ReadsItems {α β : Type} (parser : Nat → List Char → Option (List β × List Char))
    (closing : Char) (text : α → List Char) (R : α → β → Prop) : Prop where
  last : ∀ {a b fuel rest}, R a b → (text a).length ≤ fuel →
    parser (fuel + 1) (text a ++ closing :: rest) = some ([b], rest)
  next : ∀ {a b fuel rest}, R a b → (text a).length ≤ fuel →
    parser (fuel + 1) (text a ++ ',' :: rest)
      = (parser fuel rest).map fun p => (b :: p.1, p.2)

/-- **Then it reads the texts of any number of items,** with a comma between two of them. -/
theorem ReadsItems.intercalate {α β : Type}
    {parser : Nat → List Char → Option (List β × List Char)} {closing : Char}
    {text : α → List Char} {R : α → β → Prop} (h : ReadsItems parser closing text R)
    {as : List α} {bs : List β} (hitems : List.Forall₂ R as bs) (hne : as ≠ []) (fuel : Nat)
    (rest : List Char) (hfuel : (List.intercalate [','] (as.map text)).length < fuel) :
    parser fuel (List.intercalate [','] (as.map text) ++ closing :: rest) = some (bs, rest) := by
  induction hitems generalizing fuel with
  | nil => exact absurd rfl hne
  | @cons a b as bs ha has ih =>
      obtain ⟨fuel, rfl⟩ := Nat.exists_eq_add_one.mpr (Nat.zero_lt_of_lt hfuel)
      cases has with
      | nil =>
          rw [List.map_singleton, List.intercalate_singleton] at hfuel ⊢
          exact h.last ha (Nat.le_of_lt_succ hfuel)
      | @cons a' b' as bs ha' has =>
          have htext : List.intercalate [','] ((a :: a' :: as).map text)
              = text a ++ ',' :: List.intercalate [','] ((a' :: as).map text) := by
            simp [List.intercalate_cons_cons]
          rw [htext] at hfuel ⊢
          -- an item takes one unit of fuel, and its comma leaves the rest of the text one shorter
          rw [List.length_append, List.length_cons] at hfuel
          rw [List.append_assoc, List.cons_append, h.next ha (by omega),
            ih (List.cons_ne_nil _ _) fuel (by omega)]
          rfl

/-! ## Lists -/

theorem skipBlanks_skipBlanks (cs : List Char) : skipBlanks (skipBlanks cs) = skipBlanks cs :=
  List.dropWhile_idempotent _ cs

theorem value_skipBlanks (fuel : Nat) (cs : List Char) :
    value fuel (skipBlanks cs) = value fuel cs := by
  cases fuel with
  | zero => rfl
  | succ fuel => rw [value, value, skipBlanks_skipBlanks]

theorem elements_skipBlanks (fuel : Nat) (cs : List Char) :
    elements fuel (skipBlanks cs) = elements fuel cs := by
  cases fuel with
  | zero => rfl
  | succ fuel => rw [elements, elements, value_skipBlanks]

/-- No value starts with a closing bracket. -/
theorem elements_closing (fuel : Nat) (cs : List Char) : elements fuel (']' :: cs) = none := by
  match fuel with
  | 0 => rfl
  | 1 => rfl
  | _ + 2 => rfl

theorem value_bracket {fuel : Nat} {cs rest : List Char} {ds : List Document}
    (h : elements fuel cs = some (ds, rest)) :
    value (fuel + 1) ('[' :: cs) = some (.list ds, rest) := by
  have hblanks : skipBlanks ('[' :: cs) = '[' :: cs := rfl
  rw [← elements_skipBlanks] at h
  rw [value]
  simp only [hblanks]
  split
  -- an empty list would have been closed at once
  case h_1 hclosing =>
    rw [hclosing, elements_closing] at h
    cases h
  case h_2 => rw [h]; rfl

theorem readsItems_elements :
    ReadsItems elements ']' (fun d => (compact d).toList) Denotes where
  last h hfuel := by
    rw [elements, h _ _ hfuel]
    rfl
  next := by
    intro d d' fuel rest h hfuel
    rw [elements, h _ _ hfuel]
    show (elements fuel rest).bind _ = _
    cases elements fuel rest <;> rfl

theorem compactItems_toList (ds : List Document) :
    (compactItems ds).map String.toList = ds.map fun d => (compact d).toList := by
  induction ds with
  | nil => rfl
  | cons d ds ih => rw [compactItems, List.map_cons, ih, List.map_cons]

theorem denotes_list {ds ds' : List Document} (h : List.Forall₂ Denotes ds ds') :
    Denotes (.list ds) (.list ds') := by
  have htext : (compact (.list ds)).toList
      = '[' :: (List.intercalate [','] (ds.map fun d => (compact d).toList) ++ [']']) := by
    simp [compact, String.toList_intercalate, compactItems_toList]
  refine denotes_of_cons htext ?_
  intro fuel rest hfuel
  cases h with
  | nil => rfl
  | cons hd hds =>
      refine value_bracket ?_
      rw [List.append_assoc, List.singleton_append]
      rw [List.length_append] at hfuel
      exact readsItems_elements.intercalate (.cons hd hds) (List.cons_ne_nil _ _) fuel rest hfuel

/-! ## Tables -/

/-- The second entry is what the text of the first one is read as. -/
def EntryDenotes (e e' : Entry) : Prop := e'.1 = e.1 ∧ Denotes e.2 e'.2

/-- The text of an entry. -/
def entryText (e : Entry) : List Char :=
  (quoted e.1).toList ++ ':' :: (compact e.2).toList

theorem compactEntries_toList (es : List Entry) :
    (compactEntries es).map String.toList = es.map entryText := by
  induction es with
  | nil => rfl
  | cons e es ih =>
      rw [compactEntries, List.map_cons, ih, List.map_cons, entryText]
      simp

/-- After an entry the parser looks for a comma or the closing brace. -/
theorem members_entryText {e e' : Entry} (h : EntryDenotes e e') (fuel : Nat) (rest : List Char)
    (hfuel : (entryText e).length ≤ fuel) :
    members (fuel + 1) (entryText e ++ rest) =
      match skipBlanks rest with
      | '\x7d' :: rest => some ([e'], rest)
      | ',' :: rest => (members fuel rest).bind fun p => some (e' :: p.1, p.2)
      | _ => none := by
  obtain ⟨hkey, hvalue⟩ := h
  have htext : entryText e ++ rest
      = '"' :: (e.1.toList.flatMap escape ++ '"' :: (':' :: ((compact e.2).toList ++ rest))) := by
    simp [entryText, toList_quoted]
  have hlength : (compact e.2).toList.length ≤ fuel := by
    rw [entryText, List.length_append, List.length_cons] at hfuel
    omega
  rw [htext, members]
  show (string _).bind _ = _
  rw [string_quoted]
  show (value fuel _).bind _ = _
  rw [hvalue fuel rest hlength, ← hkey]
  rfl

theorem readsItems_members : ReadsItems members '\x7d' entryText EntryDenotes where
  last h hfuel := by
    rw [members_entryText h _ _ hfuel]
    rfl
  next := by
    intro e e' fuel rest h hfuel
    rw [members_entryText h _ _ hfuel]
    show (members fuel rest).bind _ = _
    cases members fuel rest <;> rfl

theorem members_skipBlanks (fuel : Nat) (cs : List Char) :
    members fuel (skipBlanks cs) = members fuel cs := by
  cases fuel with
  | zero => rfl
  | succ fuel => rw [members, members, skipBlanks_skipBlanks]

/-- The members as the parser keeps them. -/
def collect (es : List Entry) : List Entry :=
  es.foldl (fun es e => insertMember e.1 e.2 es) []

theorem value_brace {fuel : Nat} {cs rest : List Char} {es : List Entry}
    (h : members fuel cs = some (es, rest)) :
    value (fuel + 1) ('\x7b' :: cs) = some (.table (collect es), rest) := by
  have hblanks : skipBlanks ('\x7b' :: cs) = '\x7b' :: cs := rfl
  rw [← members_skipBlanks] at h
  rw [value]
  simp only [hblanks]
  split
  case h_1 hclosing =>
    rw [hclosing] at h
    cases fuel <;> cases h
  case h_2 => rw [h]; rfl

theorem denotes_table {es es' : List Entry} (h : List.Forall₂ EntryDenotes es es') :
    Denotes (.table es) (.table (collect es')) := by
  have htext : (compact (.table es)).toList
      = '\x7b' :: (List.intercalate [','] (es.map entryText) ++ ['\x7d']) := by
    simp [compact, String.toList_intercalate, compactEntries_toList]
  refine denotes_of_cons htext ?_
  intro fuel rest hfuel
  cases h with
  | nil => rfl
  | cons he hes =>
      refine value_brace ?_
      rw [List.append_assoc, List.singleton_append]
      rw [List.length_append] at hfuel
      exact readsItems_members.intercalate (.cons he hes) (List.cons_ne_nil _ _) fuel rest hfuel

theorem insertMember_perm {key : String} {value : Document} {es : List Entry}
    (h : key ∉ es.map Prod.fst) : (insertMember key value es).Perm ((key, value) :: es) := by
  induction es with
  | nil => exact .refl _
  | cons e es ih =>
      obtain ⟨hne, hes⟩ := not_or.mp (mt List.mem_cons.mpr h)
      rw [insertMember, if_neg hne]
      split
      · exact .refl _
      · exact ((ih hes).cons e).trans (.swap _ _ _)

theorem foldl_insertMember_perm {es acc : List Entry}
    (h : ((es ++ acc).map Prod.fst).Nodup) :
    (es.foldl (fun acc e => insertMember e.1 e.2 acc) acc).Perm (es ++ acc) := by
  induction es generalizing acc with
  | nil => exact .refl _
  | cons e es ih =>
      have hacc : e.1 ∉ acc.map Prod.fst := by
        rw [List.cons_append, List.map_cons, List.map_append, List.nodup_cons] at h
        exact fun hmem => h.1 (List.mem_append_right _ hmem)
      -- wherever the member is put among those before it, it is one more
      have hperm : (es ++ insertMember e.1 e.2 acc).Perm (e :: es ++ acc) :=
        ((insertMember_perm hacc).append_left es).trans List.perm_middle
      exact (ih ((hperm.map Prod.fst).nodup_iff.mpr h)).trans hperm

/-- **No member is lost where the keys differ.** -/
theorem collect_perm {es : List Entry} (h : (es.map Prod.fst).Nodup) :
    (collect es).Perm es := by
  have hperm := foldl_insertMember_perm (by rwa [List.append_nil])
  rwa [List.append_nil] at hperm

/-- The text as a whole denotes the document. -/
theorem Denotes.parse?_compact {d d' : Document} (h : Denotes d d') :
    parse? (compact d) = some d' := by
  have hvalue := h (2 * (compact d).toList.length + 2) [] (by omega)
  rw [List.append_nil] at hvalue
  show (value (2 * (compact d).toList.length + 2) (compact d).toList).bind _ = _
  rw [hvalue]
  rfl

/-! ## Records -/

/-- The text of the document is read as one that edits make of it. -/
def Rereads (edit : Document → Document → Prop) (d : Document) : Prop :=
  ∃ d', ReflTransGen edit d d' ∧ Denotes d d'

theorem rereads_of_denotes {edit : Document → Document → Prop} {d : Document} (h : Denotes d d) :
    Rereads edit d := ⟨d, .refl, h⟩

theorem exists_forall₂ {α β : Type*} {R : α → β → Prop} {as : List α}
    (h : ∀ a ∈ as, ∃ b, R a b) : ∃ bs, List.Forall₂ R as bs := by
  induction as with
  | nil => exact ⟨[], .nil⟩
  | cons a as ih =>
      obtain ⟨⟨b, hb⟩, has⟩ := List.forall_mem_cons.mp h
      obtain ⟨bs, hbs⟩ := ih has
      exact ⟨b :: bs, .cons hb hbs⟩

theorem rereads_list {edit : Document → Document → Prop} {ds : List Document}
    (h : ∀ d ∈ ds, Rereads edit d) : Rereads (ListEdit edit) (.list ds) := by
  obtain ⟨ds', hds⟩ := exists_forall₂ h
  exact ⟨.list ds', edits_items (hds.imp fun _ _ hd => hd.1) [],
    denotes_list (hds.imp fun _ _ hd => hd.2)⟩

/-- **The text of a record is read as the record in another order**, if that is how it is with its
fields. -/
theorem rereads_table (parts : List Part) (rules : List (String × Rule))
    (hrules : rulesOf parts = rules) (hnames : (rules.map Prod.fst).Nodup)
    (h : ∀ p ∈ parts, Rereads p.rule.edit p.written) :
    Rereads (TableEdit rules) (.table (parts.map fun p => (p.name, p.written))) := by
  subst hrules
  rw [map_fst_rulesOf] at hnames
  have hentries : ∀ p ∈ parts, ∃ e : Entry, p ∈ parts ∧ e.1 = p.name ∧
      ReflTransGen p.rule.edit p.written e.2 ∧ Denotes p.written e.2 := by
    intro p hp
    obtain ⟨d, hedits, hdenotes⟩ := h p hp
    exact ⟨(p.name, d), hp, rfl, hedits, hdenotes⟩
  obtain ⟨es, hes⟩ := exists_forall₂ hentries
  have hkeys : parts.map Part.name = es.map Prod.fst := by
    rw [← List.forall₂_eq_eq_eq, List.forall₂_map_left_iff, List.forall₂_map_right_iff]
    exact hes.imp fun p e he => he.2.1.symm
  refine ⟨.table (collect es), ?_, ?_⟩
  -- first every field is edited where it stands, then the fields are put in order
  · refine .tail (edits_fields ?_ []) (.permute (collect_perm (hkeys ▸ hnames)).symm)
    rw [List.forall₂_map_left_iff]
    refine hes.imp ?_
    rintro p e ⟨hp, hkey, hedits, -⟩
    exact ⟨hkey, p.rule, lookup_rulesOf hnames hp, hedits⟩
  · refine denotes_table ?_
    rw [List.forall₂_map_left_iff]
    exact hes.imp fun p e he => ⟨he.2.1, he.2.2.2⟩

end RelyingParty.Json
