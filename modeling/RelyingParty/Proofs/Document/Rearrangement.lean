import Mathlib.Data.List.Nodup
import Mathlib.Logic.Relation
import RelyingParty.Settings.Reader

/-!
# Edits that readers do not notice

A record is written as a table, and much can be done to that table without a change of meaning: its
entries can come in any order, entries that name no field can be added, and fields can be left out
that say no more than their absence. The same can be done to the tables in its fields. Such edits are
relations between documents, and which there are follows from the fields of a record (`Rule`).

That a reader does not notice them is a property of a document and a value: the document reads as the
value, and so does whatever edits make of it (`Steady`). It goes through lists (`steady_list`) and
through records (`steady_table`). For a record the invariant is that each field that is there says its
value, however often it is there, and that each that is not has its value as the default.
-/

namespace RelyingParty.Document

open Relation (ReflTransGen)

variable {α β : Type}

/-- What may be done to a field without a change of meaning. -/
structure Rule where
  /-- The values with which the field can as well be left out. -/
  dispensable : Document → Prop
  /-- What can be done to its value. -/
  edit : Document → Document → Prop

/-- Nothing can be done to the document. -/
def NoEdit (_ _ : Document) : Prop := False

/-- One edit of one item of a list. The items keep their order. -/
inductive ListEdit (edit : Document → Document → Prop) : Document → Document → Prop
  | item {before after : List Document} {d d' : Document} (h : edit d d') :
      ListEdit edit (.list (before ++ d :: after)) (.list (before ++ d' :: after))

namespace Rule

/-- A field that has to be there, as it is. -/
def required : Rule := ⟨fun _ => False, NoEdit⟩

/-- A field that can be left out when it is `null`. -/
def optional : Rule := ⟨(· = .null), NoEdit⟩

/-- A field that can be left out when it holds its default, in whatever form edits have given it. -/
def defaulted (edit : Document → Document → Prop) (default : Document) : Rule :=
  ⟨ReflTransGen edit default, edit⟩

/-- A list that can be left out when it is empty. -/
def listOf (edit : Document → Document → Prop) : Rule := defaulted (ListEdit edit) (.list [])

end Rule

/-- One edit of the table of a record whose fields have these rules. It is made to the first entry,
and another order can bring any entry there. -/
inductive TableEdit (rules : List (String × Rule)) : Document → Document → Prop
  /-- The entries come in another order. -/
  | permute {es es' : List Entry} (h : es.Perm es') : TableEdit rules (.table es) (.table es')
  /-- An entry that names no field is added. Its tables define each key once, as all tables do that
  come from a JSON text. -/
  | add {es : List Entry} {key : String} {value : Document} (hkey : rules.lookup key = none)
      (hvalue : value.hasClash = false) : TableEdit rules (.table es) (.table ((key, value) :: es))
  /-- A field is left out that says no more than its absence. -/
  | delete {es : List Entry} {key : String} {value : Document} {rule : Rule}
      (hrule : rules.lookup key = some rule) (hvalue : rule.dispensable value) :
      TableEdit rules (.table ((key, value) :: es)) (.table es)
  /-- The value of a field is edited. -/
  | inside {es : List Entry} {key : String} {value value' : Document} {rule : Rule}
      (hrule : rules.lookup key = some rule) (hvalue : rule.edit value value') :
      TableEdit rules (.table ((key, value) :: es)) (.table ((key, value') :: es))

/-! ## Edits in many places -/

/-- Each item of a list can be edited on its own. -/
theorem edits_items {edit : Document → Document → Prop} {ds ds' : List Document}
    (h : List.Forall₂ (ReflTransGen edit) ds ds') (before : List Document) :
    ReflTransGen (ListEdit edit) (.list (before ++ ds)) (.list (before ++ ds')) := by
  induction h generalizing before with
  | nil => exact .refl
  | @cons d d' ds ds' hd hds ih =>
      have hfirst : ReflTransGen (ListEdit edit) (.list (before ++ d :: ds))
          (.list (before ++ d' :: ds)) :=
        hd.lift (fun d => Document.list (before ++ d :: ds)) fun _ _ he => ListEdit.item he
      have hrest := ih (before ++ [d'])
      rw [List.append_assoc, List.append_assoc] at hrest
      exact hfirst.trans hrest

/-- Wherever a field stands, its value can be edited. -/
theorem edits_field {rules : List (String × Rule)} {key : String} {rule : Rule}
    (hrule : rules.lookup key = some rule) {v v' : Document} (h : ReflTransGen rule.edit v v')
    (before after : List Entry) :
    ReflTransGen (TableEdit rules) (.table (before ++ (key, v) :: after))
      (.table (before ++ (key, v') :: after)) := by
  have hfirst : ReflTransGen (TableEdit rules) (.table ((key, v) :: (before ++ after)))
      (.table ((key, v') :: (before ++ after))) :=
    h.lift (fun v => Document.table ((key, v) :: (before ++ after)))
      fun _ _ he => TableEdit.inside hrule he
  -- the entry is brought to the front, edited there and put back
  refine .head (.permute List.perm_middle) (hfirst.tail (.permute ?_))
  exact List.perm_middle.symm

/-- Each field of a table can be edited on its own. -/
theorem edits_fields {rules : List (String × Rule)} {es es' : List Entry}
    (h : List.Forall₂ (fun e e' => e'.1 = e.1 ∧
      ∃ rule, rules.lookup e.1 = some rule ∧ ReflTransGen rule.edit e.2 e'.2) es es')
    (before : List Entry) :
    ReflTransGen (TableEdit rules) (.table (before ++ es)) (.table (before ++ es')) := by
  induction h generalizing before with
  | nil => exact .refl
  | @cons e e' es es' he hes ih =>
      obtain ⟨key, v⟩ := e
      obtain ⟨key', v'⟩ := e'
      obtain ⟨rfl, rule, hrule, hvalue⟩ := he
      have hfirst := edits_field hrule hvalue before es
      have hrest := ih (before ++ [(key', v')])
      rw [List.append_assoc, List.append_assoc] at hrest
      exact hfirst.trans hrest

/-! ## Steadiness -/

/-- The document reads as the value, and so does every document that edits make of it. -/
def Steady (edit : Document → Document → Prop) (r : Reader α) (a : α) (d : Document) : Prop :=
  ∀ d', ReflTransGen edit d d' → r d' = .ok a

section Steady

variable {edit : Document → Document → Prop} {r : Reader α} {a : α} {d d' : Document}

theorem Steady.reads (h : Steady edit r a d) : r d = .ok a := h d .refl

theorem Steady.step (h : Steady edit r a d) (he : edit d d') : Steady edit r a d' :=
  fun d'' hd => h d'' (.head he hd)

/-- It is enough that each edit keeps an invariant under which the document reads as the value. -/
theorem steady_of_invariant (inv : Document → Prop) (hd : inv d)
    (hstep : ∀ d d', inv d → edit d d' → inv d') (hread : ∀ d, inv d → r d = .ok a) :
    Steady edit r a d := by
  intro d' h
  refine hread d' ?_
  induction h with
  | refl => exact hd
  | tail _ he ih => exact hstep _ _ ih he

/-- A document to which nothing can be done only has to be read. -/
theorem steady_of_reads (h : r d = .ok a) : Steady NoEdit r a d :=
  steady_of_invariant (· = d) rfl (fun _ _ _ he => he.elim) (fun _ hd => hd ▸ h)

end Steady

section Lists

variable {edit : Document → Document → Prop} {r : Reader α}

theorem forall₂_replace {R : α → β → Prop} {before after : List β} {b b' : β} {as : List α}
    (h : List.Forall₂ R as (before ++ b :: after)) (hb : ∀ a, R a b → R a b') :
    List.Forall₂ R as (before ++ b' :: after) := by
  induction before generalizing as with
  | nil =>
      cases h with
      | cons ha has => exact .cons (hb _ ha) has
  | cons x before ih =>
      cases h with
      | cons ha has => exact .cons ha (ih has)

theorem items_of_forall₂ {as : List α} {ds : List Document}
    (h : List.Forall₂ (fun a d => r d = .ok a) as ds) : Reader.items r ds = .ok as := by
  induction h with
  | nil => rfl
  | cons hd _ ih =>
      rw [Reader.items, hd, ih]
      rfl

/-- **A list reads steadily when its items do.** -/
theorem steady_list (f : Format) {as : List α} {ds : List Document}
    (h : List.Forall₂ (Steady edit r) as ds) :
    Steady (ListEdit edit) (Reader.list f r) as (.list ds) := by
  refine steady_of_invariant
    (fun d => ∃ ds, d = .list ds ∧ List.Forall₂ (Steady edit r) as ds) ⟨ds, rfl, h⟩ ?_ ?_
  · rintro d d' ⟨ds, hds, hsteady⟩ he
    cases he with
    | item he =>
        cases hds
        exact ⟨_, rfl, forall₂_replace hsteady fun a ha => ha.step he⟩
  · rintro d ⟨ds, rfl, hsteady⟩
    exact items_of_forall₂ (hsteady.imp fun a d ha => ha.reads)

/-- Items that are written one by one. -/
theorem steady_list_map (f : Format) {write : α → Document} (h : ∀ a, Steady edit r a (write a))
    (as : List α) : Steady (ListEdit edit) (Reader.list f r) as (.list (as.map write)) := by
  refine steady_list f ?_
  rw [List.forall₂_map_right_iff]
  exact List.forall₂_same.mpr fun a _ => h a

end Lists

/-! ## Records -/

/-- A field of a record together with the value that it has: how the value is written and read, what
stands for it when the field is absent, and what may be done to the field. -/
structure Part where
  {Value : Type}
  name : String
  rule : Rule
  reader : Reader Value
  value : Value
  default? : Option Value
  written : Document
  steady : Steady rule.edit reader value written
  /-- A field can be left out only if its value is the default. -/
  default_of_dispensable : ∀ v, rule.dispensable v → reader v = .ok value → default? = some value

namespace Part

/-- A field that has to be there. -/
def required (name : String) (r : Reader α) (a : α) (d : Document) (h : r d = .ok a) : Part where
  name := name
  rule := .required
  reader := r
  value := a
  default? := none
  written := d
  steady := steady_of_reads h
  default_of_dispensable _ hv := hv.elim

/-- A field that can be absent or `null`. -/
def optional (name : String) (r : Reader α) (a : Option α) (d : Document)
    (h : r.optional d = .ok a) : Part where
  name := name
  rule := .optional
  reader := r.optional
  value := a
  default? := some none
  written := d
  steady := steady_of_reads h
  default_of_dispensable := by
    rintro v rfl hv
    exact congrArg some (Except.ok.inj hv)

/-- A field that takes its default where it is absent. -/
def defaulted {edit : Document → Document → Prop} {default a : α} {absent d : Document}
    (name : String) (r : Reader α) (h : Steady edit r a d)
    (habsent : Steady edit r default absent) : Part where
  name := name
  rule := .defaulted edit absent
  reader := r
  value := a
  default? := some default
  written := d
  steady := h
  default_of_dispensable := by
    intro v hv hread
    exact congrArg some (Except.ok.inj ((habsent v hv).symm.trans hread))

/-- A list whose items are written one by one. -/
def listOf {edit : Document → Document → Prop} (f : Format) (name : String) (r : Reader α)
    (write : α → Document) (h : ∀ a, Steady edit r a (write a)) (as : List α) : Part :=
  defaulted name (Reader.list f r) (steady_list_map f h as) (steady_list f .nil)

/-- The entries of a table say what the value of the field is. -/
structure SaidBy (p : Part) (es : List Entry) : Prop where
  present : ∀ v, (p.name, v) ∈ es → Steady p.rule.edit p.reader p.value v
  absent : (∀ v, (p.name, v) ∉ es) → p.default? = some p.value

variable {p : Part} {es es' : List Entry} {rules : List (String × Rule)}

/-- **No edit changes what the table says of a field.** -/
theorem SaidBy.step (h : p.SaidBy es) (hrule : rules.lookup p.name = some p.rule)
    (he : TableEdit rules (.table es) (.table es')) : p.SaidBy es' := by
  cases he with
  | permute hperm =>
      constructor
      · intro v hv
        exact h.present v (hperm.mem_iff.mpr hv)
      · intro hnone
        exact h.absent fun v hv => hnone v (hperm.mem_iff.mp hv)
  | add hkey hvalue =>
      constructor
      · intro v hv
        rcases List.mem_cons.mp hv with hv | hv
        · -- the entry that has been added names no field
          cases hv
          rw [hrule] at hkey
          cases hkey
        · exact h.present v hv
      · intro hnone
        exact h.absent fun v hv => hnone v (List.mem_cons_of_mem _ hv)
  | @delete _ key value rule hkey hvalue =>
      constructor
      · intro v hv
        exact h.present v (List.mem_cons_of_mem _ hv)
      · intro hnone
        by_cases hname : p.name = key
        · -- it is the field itself that has been left out
          subst hname
          obtain rfl : p.rule = rule := Option.some.inj (hrule.symm.trans hkey)
          have hsteady := h.present value List.mem_cons_self
          exact p.default_of_dispensable value hvalue hsteady.reads
        · refine h.absent ?_
          intro v hv
          rcases List.mem_cons.mp hv with hv | hv
          · exact hname (congrArg Prod.fst hv)
          · exact hnone v hv
  | @inside _ key value value' rule hkey hvalue =>
      constructor
      · intro v hv
        rcases List.mem_cons.mp hv with hv | hv
        · cases hv
          obtain rfl : p.rule = rule := Option.some.inj (hrule.symm.trans hkey)
          exact (h.present value List.mem_cons_self).step hvalue
        · exact h.present v (List.mem_cons_of_mem _ hv)
      · intro hnone
        refine h.absent ?_
        intro v hv
        rcases List.mem_cons.mp hv with hv | hv
        · cases hv
          exact hnone value' List.mem_cons_self
        · exact hnone v (List.mem_cons_of_mem _ hv)

/-- The value that is found under the key, if any is. -/
theorem SaidBy.lookup (h : p.SaidBy es) :
    (∃ v, es.lookup p.name = some v ∧ p.reader v = .ok p.value) ∨
      es.lookup p.name = none ∧ p.default? = some p.value := by
  cases hv : es.lookup p.name with
  | some v =>
      obtain ⟨before, after, rfl, -⟩ := List.lookup_eq_some_iff.mp hv
      have hmem : (p.name, v) ∈ before ++ (p.name, v) :: after :=
        List.mem_append_right _ List.mem_cons_self
      exact Or.inl ⟨v, rfl, (h.present v hmem).reads⟩
  | none =>
      refine Or.inr ⟨rfl, h.absent ?_⟩
      intro v hmem
      have hkey := List.lookup_eq_none_iff.mp hv _ hmem
      simp at hkey

theorem SaidBy.withDefault_eq (h : p.SaidBy es) {default : p.Value}
    (hdefault : p.default? = some default) :
    withDefault es p.name p.reader default = .ok p.value := by
  rcases h.lookup with ⟨v, hv, hread⟩ | ⟨hv, habsent⟩
  · rw [withDefault, hv]
    exact hread
  · rw [withDefault, hv, Option.some.inj (hdefault.symm.trans habsent)]

theorem SaidBy.required_eq {name : String} {r : Reader α} {a : α} {d : Document} {hread}
    (h : (required name r a d hread).SaidBy es) : Document.required es name r = .ok a := by
  rcases h.lookup with ⟨v, hv, hvalue⟩ | ⟨-, habsent⟩
  · rw [Document.required, show es.lookup name = some v from hv]
    exact hvalue
  · cases habsent

theorem SaidBy.optional_eq {name : String} {r : Reader α} {a : Option α} {d : Document} {hread}
    (h : (optional name r a d hread).SaidBy es) : optionalField es name r = .ok a :=
  h.withDefault_eq rfl

theorem SaidBy.defaulted_eq {edit : Document → Document → Prop} {default a : α}
    {absent d : Document} {name : String} {r : Reader α} {hsteady : Steady edit r a d}
    {habsent : Steady edit r default absent}
    (h : (defaulted name r hsteady habsent).SaidBy es) : withDefault es name r default = .ok a :=
  h.withDefault_eq rfl

theorem SaidBy.listOf_eq {edit : Document → Document → Prop} {f : Format} {name : String}
    {r : Reader α} {write : α → Document} {hsteady : ∀ a, Steady edit r a (write a)}
    {as : List α} (h : (listOf f name r write hsteady as).SaidBy es) :
    withDefault es name (Reader.list f r) [] = .ok as :=
  h.withDefault_eq rfl

end Part

section Table

/-- The rules for the fields of a record. -/
def rulesOf (parts : List Part) : List (String × Rule) := parts.map fun p => (p.name, p.rule)

variable {parts : List Part} {fields : List Field}

theorem map_fst_rulesOf (parts : List Part) :
    (rulesOf parts).map Prod.fst = parts.map Part.name := by
  rw [rulesOf, List.map_map]
  rfl

theorem lookup_rulesOf (hnames : (parts.map Part.name).Nodup) {p : Part} (hp : p ∈ parts) :
    (rulesOf parts).lookup p.name = some p.rule := by
  induction parts with
  | nil => exact absurd hp List.not_mem_nil
  | cons q parts ih =>
      obtain ⟨hq, hnames⟩ := List.nodup_cons.mp hnames
      rw [rulesOf, List.map_cons, List.lookup_cons]
      rcases List.mem_cons.mp hp with rfl | hp
      · simp
      · have hne : p.name ≠ q.name := fun he => hq (he ▸ List.mem_map_of_mem hp)
        rw [beq_eq_false_iff_ne.mpr hne]
        exact ih hnames hp

theorem lookup_rulesOf_eq_none {key : String} (h : ∀ p ∈ parts, p.name ≠ key) :
    (rulesOf parts).lookup key = none := by
  rw [List.lookup_eq_none_iff]
  intro x hx
  obtain ⟨p, hp, rfl⟩ := List.mem_map.mp hx
  exact bne_iff_ne.mpr (h p hp).symm

/-- What a table has to satisfy to say the values of the parts of a record. -/
structure Says (parts : List Part) (es : List Entry) : Prop where
  said : ∀ p ∈ parts, p.SaidBy es
  others : ∀ e ∈ es, (rulesOf parts).lookup e.1 = none → e.2.hasClash = false

/-- **No edit changes what a table says.** -/
theorem Says.step {es es' : List Entry} (h : Says parts es)
    (hnames : (parts.map Part.name).Nodup)
    (he : TableEdit (rulesOf parts) (.table es) (.table es')) : Says parts es' := by
  refine ⟨fun p hp => (h.said p hp).step (lookup_rulesOf hnames hp) he, ?_⟩
  cases he with
  | permute hperm => exact fun e he => h.others e (hperm.mem_iff.mpr he)
  | add hkey hvalue => exact List.forall_mem_cons.mpr ⟨fun _ => hvalue, h.others⟩
  | delete hkey hvalue => exact (List.forall_mem_cons.mp h.others).2
  | inside hkey hvalue =>
      refine List.forall_mem_cons.mpr ⟨?_, (List.forall_mem_cons.mp h.others).2⟩
      intro hnone
      rw [hkey] at hnone
      cases hnone

/-- What is written says what it is written for. -/
theorem says_written (hnames : (parts.map Part.name).Nodup) :
    Says parts (parts.map fun p => (p.name, p.written)) := by
  constructor
  · intro p hp
    constructor
    · intro v hv
      obtain ⟨q, hq, he⟩ := List.mem_map.mp hv
      obtain rfl : q = p := List.inj_on_of_nodup_map hnames hq hp (congrArg Prod.fst he)
      cases he
      exact q.steady
    · intro hnone
      exact absurd (List.mem_map_of_mem (f := fun p => (p.name, p.written)) hp) (hnone _)
  · intro e he hnone
    obtain ⟨p, hp, rfl⟩ := List.mem_map.mp he
    rw [lookup_rulesOf hnames hp] at hnone
    cases hnone

/-- **A table that says the parts of a record is read without a fault.** -/
theorem Says.findSome?_entryFault? {es : List Entry} (h : Says parts es)
    (hfields : fields.map (fun field => (field.name, field.fault?))
      = parts.map fun p => (p.name, p.reader.fault?)) :
    es.findSome? (entryFault? fields) = none := by
  refine List.findSome?_eq_none_iff.mpr ?_
  intro e he
  rw [entryFault?]
  cases hfind : fields.find? fun field => field.name = e.1 with
  | some field =>
      -- the field is that of a part, whose value reads well
      have hfield := List.mem_map_of_mem (f := fun field : Field => (field.name, field.fault?))
        (List.mem_of_find?_eq_some hfind)
      rw [hfields] at hfield
      obtain ⟨p, hp, hpart⟩ := List.mem_map.mp hfield
      have hname : p.name = e.1 := (congrArg Prod.fst hpart).trans
        (by simpa using List.find?_some hfind)
      have hread := ((h.said p hp).present e.2 (hname ▸ he)).reads
      have hfault : p.reader.fault? = field.fault? := congrArg Prod.snd hpart
      show field.fault? e.2 = none
      rw [← hfault, Reader.fault?, hread]
  | none =>
      have hother : ∀ p ∈ parts, p.name ≠ e.1 := by
        intro p hp hname
        have hpart := List.mem_map_of_mem (f := fun p : Part => (p.name, p.reader.fault?)) hp
        rw [← hfields] at hpart
        obtain ⟨field, hfield, hsame⟩ := List.mem_map.mp hpart
        have hmiss := List.find?_eq_none.mp hfind field hfield
        exact hmiss (by simpa using (congrArg Prod.fst hsame).trans hname)
      rw [h.others e he (lookup_rulesOf_eq_none hother)]
      rfl

/-- **A record reads steadily when its parts do.** The reader has to be one of these parts, in its
fields and in what it assembles. -/
theorem steady_table (f : Format) (title : String) (rules : List (String × Rule))
    {assemble : List Entry → Except Fault α} {a : α} (hrules : rulesOf parts = rules)
    (hnames : (rules.map Prod.fst).Nodup)
    (hfields : fields.map (fun field => (field.name, field.fault?))
      = parts.map fun p => (p.name, p.reader.fault?))
    (hassemble : ∀ es, Says parts es → assemble es = .ok a) :
    Steady (TableEdit rules) (Reader.record f title fields assemble) a
      (.table (parts.map fun p => (p.name, p.written))) := by
  subst hrules
  rw [map_fst_rulesOf] at hnames
  refine steady_of_invariant (fun d => ∃ es, d = .table es ∧ Says parts es)
    ⟨_, rfl, says_written hnames⟩ ?_ ?_
  · rintro d d' ⟨es, rfl, hsays⟩ he
    -- an edited table is a table
    cases d' with
    | table es' => exact ⟨es', rfl, hsays.step hnames he⟩
    | _ => cases he
  · rintro d ⟨es, rfl, hsays⟩
    simp only [Reader.record, content, hsays.findSome?_entryFault? hfields, Option.or_none]
    exact hassemble es hsays

end Table

end RelyingParty.Document
