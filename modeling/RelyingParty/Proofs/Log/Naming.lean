import Mathlib.Data.List.Find
import Mathlib.Data.List.TakeWhile
import Mathlib.Data.String.Basic
import RelyingParty.Log.Filter

/-!
# Names of thresholds

A text names a threshold when it is one of six words, upper and lower case of ASCII aside
(`ofName?_eq_some_iff`). Asking for it then puts that threshold in force, and any other text
changes nothing (`apply_of_word`, `apply_of_ne_word`).

As a list of directives such a text is read as one level for all records (`ofText_of_word`): it
consists of letters, so nothing in it separates directives or their parts.
-/

namespace RelyingParty

/-! ## Texts without separators -/

namespace Text

/-- The search for a separator, after a part of the text without finding one. -/
theorem splitOnAux_of_not_mem {c : Char} {rest : List Char} (h : c ∉ rest) (before : List Char) :
    (String.ofList (before ++ rest)).splitOnAux (String.ofList [c]) 0 ⟨String.utf8Len before⟩ 0 []
      = [String.ofList (before ++ rest)] := by
  induction rest generalizing before with
  | nil =>
      have hend := (String.atEnd_of_valid before []).mpr rfl
      have hall := String.extract_of_valid [] before []
      rw [String.utf8Len, Nat.zero_add, List.nil_append] at hall
      rw [String.splitOnAux.eq_1, if_pos hend]
      show [String.Pos.Raw.extract _ ⟨0⟩ _].reverse = _
      rw [hall, List.append_nil, List.reverse_singleton]
  | cons d rest ih =>
      obtain ⟨hd, hrest⟩ := not_or.mp (List.mem_cons.not.mp h)
      have hmore : ¬ String.Pos.Raw.atEnd (String.ofList (before ++ d :: rest))
          ⟨String.utf8Len before⟩ = true :=
        (String.atEnd_of_valid _ _).not.mpr (List.cons_ne_nil _ _)
      have hhere := String.get_of_valid before (d :: rest)
      have hseparator : String.Pos.Raw.get (String.ofList [c]) 0 = c := String.get_of_valid [] [c]
      have hother : ¬ (d == c) = true := by
        rw [beq_iff_eq]
        exact fun heq => hd heq.symm
      have hstep : String.utf8Len before + d.utf8Size = String.utf8Len (before ++ [d]) := by
        rw [String.utf8Len_append, String.utf8Len_cons, String.utf8Len_nil, Nat.zero_add]
      -- from here on the search is that of the rest, after one character more
      have hrest' := ih hrest (before ++ [d])
      rw [List.append_assoc, List.singleton_append] at hrest'
      rw [String.splitOnAux.eq_1, if_neg hmore, hhere, hseparator, List.headD_cons, if_neg hother]
      show String.splitOnAux _ _ 0 (String.Pos.Raw.next _ ⟨String.utf8Len before⟩) 0 [] = _
      rw [String.next_of_valid, hstep, hrest']

/-- A text without the separator is one piece. -/
theorem splitOn_of_not_mem {c : Char} {s : String} (h : c ∉ s.toList) :
    s.splitOn (String.ofList [c]) = [s] := by
  have hseparator : (String.ofList [c] == "") = false := by
    rw [beq_eq_false_iff_ne, ne_eq, ← String.toList_inj, String.toList_ofList]
    exact List.cons_ne_nil _ _
  have hsearch := splitOnAux_of_not_mem h []
  rw [List.nil_append, String.ofList_toList] at hsearch
  rw [String.splitOn, hseparator]
  exact hsearch

theorem strip_eq_self {s : String} (h : ∀ c ∈ s.toList, isWhiteSpace c = false) : strip s = s := by
  have hkept : ∀ cs : List Char, (∀ c ∈ cs, isWhiteSpace c = false) →
      cs.dropWhile isWhiteSpace = cs := by
    intro cs hcs
    rw [List.dropWhile_eq_self_iff]
    intro hlength
    rw [hcs _ (List.getElem_mem hlength)]
    exact Bool.false_ne_true
  rw [strip, hkept _ h, hkept _ (by simpa using h), List.reverse_reverse, String.ofList_toList]

end Text

namespace Log

namespace Threshold

variable {s : String} {t : Threshold}

/-! ## Words -/

/-- The word for a threshold. -/
def word : Threshold → String
  | off => "off"
  | upTo .error => "error"
  | upTo .warn => "warn"
  | upTo .info => "info"
  | upTo .debug => "debug"
  | upTo .trace => "trace"

theorem foldCase_eq_toLower (c : Char) : foldCase c = c.toLower := by
  unfold foldCase Char.toLower
  by_cases h : 'A' ≤ c ∧ c ≤ 'Z'
  · have hval : c.val ≥ 'A'.val ∧ c.val ≤ 'Z'.val := h
    have hle : c.toNat ≤ 90 := h.2
    have hvalid : (c.toNat + 32).isValidChar := Or.inl (by omega)
    rw [if_pos h, dif_pos hval]
    refine Char.toNat_inj.mp ?_
    rw [Char.ofNat, dif_pos hvalid]
    show c.toNat + 32 = (c.val + 32).toNat
    rw [UInt32.toNat_add]
    show c.toNat + 32 = (c.toNat + 32) % 2 ^ 32
    omega
  · have hval : ¬ (c.val ≥ 'A'.val ∧ c.val ≤ 'Z'.val) := h
    rw [if_neg h, dif_neg hval]

theorem toList_toLower (s : String) : s.toLower.toList = s.toList.map foldCase := by
  show (s.map Char.toLower).toList = _
  rw [String.toList_map]
  exact List.map_congr_left fun c _ => (foldCase_eq_toLower c).symm

theorem word_toList (t : Threshold) : t.word.toList = t.name.toList.map foldCase := by
  rcases t with _ | _ | _ | _ | _ | _ <;> decide

/-- **The words name the thresholds,** letter case aside. -/
theorem ofName?_eq_some_iff : ofName? s = some t ↔ s.toLower = t.word := by
  have hword : ofName? s = all.find? fun t => s.toLower = t.word := by
    refine List.find?_congr ?_
    intro t _
    refine decide_eq_decide.mpr ?_
    rw [← word_toList, ← toList_toLower, String.toList_inj]
    exact eq_comm
  rw [hword]
  constructor
  · intro h
    simpa using List.find?_some h
  · intro h
    rw [h]
    rcases t with _ | _ | _ | _ | _ | _ <;> rfl

theorem ofName?_eq_none_iff : ofName? s = none ↔ ∀ t : Threshold, s.toLower ≠ t.word := by
  rw [Option.eq_none_iff_forall_not_mem]
  exact forall_congr' fun t => ofName?_eq_some_iff.not

theorem apply_of_word (h : s.toLower = t.word) (t' : Threshold) : t'.apply s = t := by
  rw [apply, ofName?_eq_some_iff.mpr h, Option.getD_some]

theorem apply_of_ne_word (h : ∀ t : Threshold, s.toLower ≠ t.word) (t' : Threshold) :
    t'.apply s = t' := by
  rw [apply, ofName?_eq_none_iff.mpr h, Option.getD_none]

/-! ## The characters of a name -/

theorem foldCase_mem_word (h : s.toLower = t.word) {c : Char} (hc : c ∈ s.toList) :
    foldCase c ∈ t.word.toList := by
  rw [← h, toList_toLower]
  exact List.mem_map_of_mem hc

/-- What separates directives and their parts is in no word. -/
theorem separators_not_mem_word (t : Threshold) : foldCase '/' ∉ t.word.toList ∧
    foldCase ',' ∉ t.word.toList ∧ foldCase '=' ∉ t.word.toList := by
  rcases t with _ | _ | _ | _ | _ | _ <;> decide

theorem isEmpty_of_word (h : s.toLower = t.word) : s.isEmpty = false := by
  rw [Bool.eq_false_iff]
  intro hempty
  have hletters : [] = t.word.toList := by
    rw [← h, toList_toLower, String.isEmpty_iff.mp hempty]
    rfl
  rcases t with _ | _ | _ | _ | _ | _ <;> exact absurd hletters (by decide)

theorem isWhiteSpace_of_mem_word {c : Char} (hc : c ∈ t.word.toList) :
    Text.isWhiteSpace c = false := by
  have hall : (t.word.toList.any Text.isWhiteSpace) = false := by
    rcases t with _ | _ | _ | _ | _ | _ <;> decide
  exact Bool.eq_false_iff.mpr (List.any_eq_false.mp hall c hc)

theorem isWhiteSpace_of_word (h : s.toLower = t.word) {c : Char} (hc : c ∈ s.toList) :
    Text.isWhiteSpace c = false := by
  have hmem := foldCase_mem_word h hc
  rw [foldCase] at hmem
  split at hmem
  · next hupper =>
      -- a capital letter, and no range of white space reaches these
      have hlo : 65 ≤ c.toNat := hupper.1
      have hhi : c.toNat ≤ 90 := hupper.2
      have hapart : ∀ r ∈ Text.whiteSpaceRanges, r.2 < 65 ∨ 90 < r.1 := by decide
      rw [Text.isWhiteSpace, Bool.eq_false_iff]
      intro hwhite
      obtain ⟨r, hr, hrange⟩ := Text.inRanges_eq_true_iff.mp hwhite
      have hr' := hapart r hr
      omega
  · exact isWhiteSpace_of_mem_word hmem

end Threshold

/-! ## A name for a list of directives -/

namespace Filter

variable {s : String} {t : Threshold}

theorem ofDirectives_singleton (d : Directive) (pattern : Option String) :
    ofDirectives [d] pattern = ⟨[d], pattern⟩ := by
  rw [ofDirectives, List.foldl_cons, List.foldl_nil, Directive.add]
  show Filter.mk (List.mergeSort [d] _) pattern = _
  rw [List.mergeSort_singleton]

/-- **A name alone is one level for all records.** -/
theorem ofText_of_word (h : s.toLower = t.word) : ofText s = (⟨[⟨none, t⟩], none⟩, []) := by
  have hpiece : ∀ {c : Char}, Threshold.foldCase c ∉ t.word.toList →
      s.splitOn (String.ofList [c]) = [s] :=
    fun hc => Text.splitOn_of_not_mem fun hmem => hc (Threshold.foldCase_mem_word h hmem)
  obtain ⟨hnoSlash, hnoComma, hnoEquals⟩ := Threshold.separators_not_mem_word t
  have hslash : s.splitOn "/" = [s] := hpiece hnoSlash
  have hcomma : s.splitOn "," = [s] := hpiece hnoComma
  have hequals : s.splitOn "=" = [s] := hpiece hnoEquals
  have hstrip : Text.strip s = s :=
    Text.strip_eq_self fun c hc => Threshold.isWhiteSpace_of_word h hc
  have hdirective : Directive.ofText s = .ok ⟨none, t⟩ := by
    rw [Directive.ofText, hequals]
    simp only [Threshold.ofName?_eq_some_iff.mpr h]
  have hdirectives : directivesOf [s] = ([⟨none, t⟩], []) := by
    simp only [directivesOf, hstrip, Threshold.isEmpty_of_word h, hdirective, Bool.false_eq_true,
      ↓reduceIte]
  rw [ofText, hslash]
  simp only [hcomma, hdirectives, ofDirectives_singleton]

theorem threshold_singleton (t : Threshold) (name pattern : Option String) :
    (Filter.mk [⟨name, t⟩] pattern).threshold = t := by
  rcases t with _ | _ | _ | _ | _ | _ <;> rfl

end Filter

end Log

end RelyingParty
