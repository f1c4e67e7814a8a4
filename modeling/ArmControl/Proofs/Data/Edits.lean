import ArmControl.Data.Codec
import Mathlib.Logic.Relation

/-!
# Edits of written values

A value is read from more trees than the one it is written as. A record may have its entries in
another order and entries of other names beside them, it may lack the entry of a field that holds
nothing, and the list of its values may stand for it. A `Shape` says where in a tree there are such
records, and an `Edit` is one of these changes, at any depth. A codec is `Sound` for a shape when it
reads what it writes and no edit makes a difference to it. Each way to build a codec from others
keeps this; `Fields.Shaped.sound` is the case of a record.
-/

namespace ArmControl

/-- Where a tree holds records: nowhere; in itself, with a place for each field that tells its name,
whether it may be left out when it is null, and the shape of its value; or in the payload of some
variants. `listed` says whether the list of its values may stand for a record. -/
inductive Shape
  | plain
  | record (listed : Bool) (places : List (String × Bool × Shape))
  | variant (payloads : List (String × Shape))

/-- The places of the fields of a record. -/
abbrev Places := List (String × Bool × Shape)

/-- The entries of a record. -/
abbrev Entries := List (String × Tree)

/-- One change of a tree that its reader need not notice. A record names no entry twice, before the
change and after it. -/
inductive Edit : Shape → Tree → Tree → Prop
  | permute {listed : Bool} {places : Places} (entries entries' : Entries) :
      (entries.map Prod.fst).Nodup → entries.Perm entries' →
      Edit (.record listed places) (.record entries) (.record entries')
  | add {listed : Bool} {places : Places} (entries : Entries) (name : String) (t : Tree) :
      name ∉ places.map Prod.fst → name ∉ entries.map Prod.fst →
      Edit (.record listed places) (.record entries) (.record ((name, t) :: entries))
  | leaveOut {listed : Bool} {places : Places} (before after : Entries) (name : String)
      (s : Shape) :
      places.lookup name = some (true, s) → name ∉ (before ++ after).map Prod.fst →
      Edit (.record listed places) (.record (before ++ (name, .null) :: after))
        (.record (before ++ after))
  | enlist {places : Places} (entries : Entries) :
      entries.map Prod.fst = places.map Prod.fst →
      Edit (.record true places) (.record entries) (.list (entries.map Prod.snd))
  | entry {listed : Bool} {places : Places} (before after : Entries) (name : String)
      (optional : Bool) (s : Shape) (t t' : Tree) :
      places.lookup name = some (optional, s) → Edit s t t' →
      Edit (.record listed places) (.record (before ++ (name, t) :: after))
        (.record (before ++ (name, t') :: after))
  | item {places : Places} (before after : List Tree) (name : String) (optional : Bool)
      (s : Shape) (t t' : Tree) :
      places[before.length]? = some (name, optional, s) → Edit s t t' →
      Edit (.record true places) (.list (before ++ t :: after)) (.list (before ++ t' :: after))
  | payload {payloads : List (String × Shape)} (name : String) (s : Shape) (t t' : Tree) :
      (name, s) ∈ payloads → Edit s t t' →
      Edit (.variant payloads) (.record [(name, t)]) (.record [(name, t')])

namespace Edit

variable {s : Shape} {t t' : Tree}

/-- Nothing is edited where there is no record. -/
theorem not_plain : ¬ Edit .plain t t' := nofun

/-- An edit neither begins nor ends with nothing. -/
theorem ne_null (h : Edit s t t') : t ≠ .null ∧ t' ≠ .null := by
  cases h <;> exact ⟨nofun, nofun⟩

end Edit

/-! ## The entries of a record -/

/-- The order of entries with different names does not matter. -/
theorem lookup_perm {entries entries' : Entries} (hperm : entries.Perm entries')
    (hnames : (entries.map Prod.fst).Nodup) (name : String) :
    entries.lookup name = entries'.lookup name := by
  induction hperm with
  | nil => rfl
  | cons entry _ ih =>
      rw [List.map_cons, List.nodup_cons] at hnames
      obtain ⟨name', t⟩ := entry
      rw [List.lookup_cons, List.lookup_cons, ih hnames.2]
  | swap first second rest =>
      obtain ⟨name₁, t₁⟩ := first
      obtain ⟨name₂, t₂⟩ := second
      have hne : name₂ ≠ name₁ := by
        simp only [List.map_cons, List.nodup_cons, List.mem_cons, not_or] at hnames
        exact hnames.1.1
      by_cases hname : name = name₁
      · subst hname
        simp [List.lookup_cons, beq_eq_false_iff_ne.mpr hne.symm]
      · simp [List.lookup_cons, beq_eq_false_iff_ne.mpr hname]
  | trans hperm _ ih ih' =>
      exact (ih hnames).trans (ih' ((hperm.map Prod.fst).nodup_iff.mp hnames))

/-- No entry is found under a name that no entry has. -/
theorem lookup_eq_none_of_not_mem {β : Type} {entries : List (String × β)} {name : String}
    (h : name ∉ entries.map Prod.fst) : entries.lookup name = none := by
  rw [List.lookup_eq_none_iff]
  intro entry hentry
  rw [bne_iff_ne]
  rintro rfl
  exact h (List.mem_map_of_mem hentry)

/-- What is found among more entries, under a name that the first of them does not have. -/
theorem lookup_cons_of_ne {β : Type} {entries : List (String × β)} {name name' : String} (b : β)
    (h : name ≠ name') : ((name', b) :: entries).lookup name = entries.lookup name := by
  rw [List.lookup_cons, beq_eq_false_iff_ne.mpr h]

/-- What an edit of a record makes of the entry for one field: nothing, an edit of its value, or
that a null is left out. -/
inductive SameEntry (optional : Bool) (s : Shape) : Option Tree → Option Tree → Prop
  | same (entry : Option Tree) : SameEntry optional s entry entry
  | edited {t t' : Tree} : Edit s t t' → SameEntry optional s (some t) (some t')
  | absent : optional = true → SameEntry optional s (some .null) none

/-- The entry for a field, before and after an edit. -/
theorem Edit.entries_alike {listed : Bool} {places : Places} {entries entries' : Entries}
    (h : Edit (.record listed places) (.record entries) (.record entries')) {name : String}
    {optional : Bool} {s : Shape} (hplace : places.lookup name = some (optional, s)) :
    SameEntry optional s (entries.lookup name) (entries'.lookup name) := by
  cases h with
  | permute _ _ hnames hperm =>
      rw [lookup_perm hperm hnames]
      exact .same _
  | add _ other t hunknown _ =>
      have hne : name ≠ other := by
        rintro rfl
        rw [lookup_eq_none_of_not_mem hunknown] at hplace
        cases hplace
      rw [lookup_cons_of_ne t hne]
      exact .same _
  | leaveOut before after other s' hother honce =>
      by_cases hname : name = other
      · subst hname
        obtain ⟨rfl, rfl⟩ : true = optional ∧ s' = s := by
          rw [hother] at hplace
          simpa using hplace
        have hnone := lookup_eq_none_of_not_mem honce
        have hbefore : before.lookup name = none := by
          rw [List.lookup_append, Option.or_eq_none_iff] at hnone
          exact hnone.1
        rw [hnone, List.lookup_append, hbefore, List.lookup_cons_self]
        exact .absent rfl
      · rw [List.lookup_append, List.lookup_append, lookup_cons_of_ne _ hname]
        exact .same _
  | entry before after other optional' s' t t' hother hedit =>
      by_cases hname : name = other
      · subst hname
        obtain ⟨rfl, rfl⟩ : optional' = optional ∧ s' = s := by
          rw [hother] at hplace
          simpa using hplace
        rw [List.lookup_append, List.lookup_append]
        cases before.lookup name with
        | none => simpa using SameEntry.edited hedit
        | some earlier => simpa using SameEntry.same (some earlier)
      · rw [List.lookup_append, List.lookup_append, lookup_cons_of_ne _ hname,
          lookup_cons_of_ne _ hname]
        exact .same _

/-! ## Codecs -/

namespace Codec

variable {α β : Type} {c : Codec α} {s : Shape}

/-- The codec reads what it writes, and no edit makes a difference to it. -/
structure Sound (c : Codec α) (s : Shape) : Prop where
  round_trip : ∀ a, c.decode (c.encode a) = some a
  edited : ∀ {t t'}, Edit s t t' → c.decode t = c.decode t'

theorem Sound.plain (h : ∀ a, c.decode (c.encode a) = some a) : c.Sound .plain :=
  ⟨h, fun hedit => (Edit.not_plain hedit).elim⟩

/-- Any number of edits make no difference. -/
theorem Sound.edits {t t' : Tree} (h : c.Sound s) (hedits : Relation.ReflTransGen (Edit s) t t') :
    c.decode t = c.decode t' := by
  induction hedits with
  | refl => rfl
  | tail _ hedit ih => exact ih.trans (h.edited hedit)

/-- A codec that does not read null does not write it either. -/
theorem Sound.encode_ne_null (h : c.Sound s) (hnull : c.decode .null = none) (a : α) :
    c.encode a ≠ .null := by
  intro heq
  have hread := h.round_trip a
  rw [heq, hnull] at hread
  cases hread

theorem Sound.map (h : c.Sound s) {forth : α → β} {back : β → α}
    (hback : ∀ b, forth (back b) = b) : (c.map forth back).Sound s where
  round_trip b := by
    show (c.decode (c.encode (back b))).map forth = some b
    rw [h.round_trip, Option.map_some, hback]
  edited hedit := by
    show (c.decode _).map forth = (c.decode _).map forth
    rw [h.edited hedit]

theorem bool_sound : Codec.bool.Sound .plain := .plain fun _ => rfl

theorem float_sound : Codec.float.Sound .plain := .plain fun _ => rfl

theorem word64_decode_int {n : Nat} (h : n < UInt64.size) :
    Codec.word64.decode (.int n) = some (UInt64.ofNat n) := if_pos h

theorem word64_sound : Codec.word64.Sound .plain := .plain fun n => by
  show Codec.word64.decode (.int n.toNat) = some n
  rw [word64_decode_int n.toNat_lt_size, UInt64.ofNat_toNat]

theorem int32_sound : Codec.int32.Sound .plain := .plain fun n => by
  show (if _ then some (Int32.ofInt n.toInt) else none) = some n
  rw [if_pos ⟨n.minValue_le_toInt, n.toInt_le⟩, Int32.ofInt_toInt]

/-- Items are read one by one. -/
theorem mapM_encode (h : ∀ a, c.decode (c.encode a) = some a) (values : List α) :
    (values.map c.encode).mapM c.decode = some values := by
  induction values with
  | nil => rfl
  | cons a rest ih => simp [List.mapM_cons, h a, ih]

theorem vector_sound (n : Nat) (h : ∀ a, c.decode (c.encode a) = some a) :
    (Codec.vector n c).Sound .plain := .plain fun v => by
  have hitems := mapM_encode h v.toList
  have hlength : v.toList.length = n := v.length_toList
  show (do
    let values ← (v.toList.map c.encode).mapM c.decode
    if h : values.length = n then some ⟨values.toArray, by simpa using h⟩ else none) = some v
  rw [hitems]
  show (if h : v.toList.length = n then some ⟨v.toList.toArray, by simp⟩ else none) = some v
  rw [dif_pos hlength]
  rfl

/-- One of some values that differ in their names. -/
theorem named_sound {all : List α} {name : α → String}
    (h : ∀ a, (all.find? fun b => name b == name a) = some a) :
    (Codec.named all name).Sound .plain := .plain h

/-- Anything but null is read as a value. -/
theorem optional_decode {t : Tree} (h : t ≠ .null) :
    c.optional.decode t = (c.decode t).map some := by
  cases t with
  | null => exact absurd rfl h
  | _ => rfl

theorem Sound.optional (h : c.Sound s) (hnull : c.decode .null = none) :
    c.optional.Sound s where
  round_trip a := by
    cases a with
    | none => rfl
    | some a =>
        have hne := h.encode_ne_null hnull a
        show c.optional.decode (c.encode a) = some (some a)
        rw [optional_decode hne, h.round_trip, Option.map_some]
  edited hedit := by
    obtain ⟨hne, hne'⟩ := hedit.ne_null
    rw [optional_decode hne, optional_decode hne', h.edited hedit]

theorem tagged_encode_none {write : α → String × Option Tree}
    {read : String → Option Tree → Option α} {a : α} {name : String}
    (h : write a = (name, none)) : (Codec.tagged write read).encode a = .text name := by
  simp [Codec.tagged, h]

theorem tagged_encode_some {write : α → String × Option Tree}
    {read : String → Option Tree → Option α} {a : α} {name : String} {t : Tree}
    (h : write a = (name, some t)) :
    (Codec.tagged write read).encode a = .record [(name, t)] := by
  simp [Codec.tagged, h]

/-- A payload that is not null is read under the name of its variant. -/
theorem tagged_decode {write : α → String × Option Tree}
    {read : String → Option Tree → Option α} (name : String) {t : Tree} (h : t ≠ .null) :
    (Codec.tagged write read).decode (.record [(name, t)]) = read name (some t) := by
  cases t with
  | null => exact absurd rfl h
  | _ => rfl

/-- A value with variants, each of whose payloads is read as it is written and also when it was
edited. -/
theorem tagged_sound {write : α → String × Option Tree} {read : String → Option Tree → Option α}
    {payloads : List (String × Shape)} (hround : ∀ a, read (write a).1 (write a).2 = some a)
    (hnull : ∀ a, (write a).2 ≠ some .null)
    (hedit : ∀ name s t t', (name, s) ∈ payloads → Edit s t t' →
      read name (some t) = read name (some t')) :
    (Codec.tagged write read).Sound (.variant payloads) where
  round_trip a := by
    have hread := hround a
    have hpayload := hnull a
    rcases hwrite : write a with ⟨name, _ | t⟩
    · rw [hwrite] at hread
      rw [tagged_encode_none hwrite]
      exact hread
    · rw [hwrite] at hread hpayload
      rw [tagged_encode_some hwrite, tagged_decode name fun h => hpayload (congrArg some h)]
      exact hread
  edited h := by
    cases h with
    | payload name s t t' hmem h =>
        obtain ⟨hne, hne'⟩ := h.ne_null
        rw [tagged_decode name hne, tagged_decode name hne']
        exact hedit name s t t' hmem h

end Codec

/-! ## Records -/

namespace Fields

/-- The fields have these places, in this order; each has a codec that is sound for its shape, and a
field that may be left out is then read as if it were null. -/
inductive Shaped : {γ : Type} → Fields γ → Places → Prop
  | nil : Shaped .nil []
  | cons {α β : Type} {name : String} {codec : Codec α} {absence : Absence α} {rest : Fields β}
      {places : Places} (optional : Bool) (s : Shape) :
      codec.Sound s → (optional = true → codec.decode .null = absence.inRecord) →
      name ∉ places.map Prod.fst → Shaped rest places →
      Shaped (.cons name codec absence rest) ((name, optional, s) :: places)

section Shaped

variable {α β γ : Type} {name : String} {codec : Codec α} {rest : Fields β} {f : Fields γ}
  {places : Places} {s : Shape}

theorem Shaped.field (h : codec.Sound s) (hname : name ∉ places.map Prod.fst)
    (hrest : rest.Shaped places) :
    (field name codec rest).Shaped ((name, false, s) :: places) :=
  .cons false s h nofun hname hrest

theorem Shaped.optional (h : codec.Sound s) (hnull : codec.decode .null = none)
    (hname : name ∉ places.map Prod.fst) (hrest : rest.Shaped places) :
    (optionalField name codec rest).Shaped ((name, true, s) :: places) :=
  .cons true s (h.optional hnull) (fun _ => rfl) hname hrest

theorem Shaped.defaulted (value : α) (h : codec.Sound s) (hname : name ∉ places.map Prod.fst)
    (hrest : rest.Shaped places) :
    (defaultedField name codec value rest).Shaped ((name, false, s) :: places) :=
  .cons false s h nofun hname hrest

/-- The entries of a record stand in the order of its fields. -/
theorem Shaped.encode_names (h : f.Shaped places) (c : γ) :
    (f.encode c).map Prod.fst = places.map Prod.fst := by
  induction h with
  | nil => rfl
  | cons _ _ _ _ _ _ ih => exact congrArg _ (ih c.2)

/-- The list of the values of a record is read back. -/
theorem Shaped.list_round_trip (h : f.Shaped places) (c : γ) :
    f.ofList ((f.encode c).map Prod.snd) = some c := by
  induction h with
  | nil => rfl
  | cons _ _ hsound _ _ _ ih =>
      obtain ⟨a, b⟩ := c
      simp [encode, ofList, hsound.round_trip a, ih b]

/-- Entries that are alike for every field are read alike. -/
theorem Shaped.record_alike {entries entries' : Entries} (h : f.Shaped places)
    (halike : ∀ name optional s, places.lookup name = some (optional, s) →
      SameEntry optional s (entries.lookup name) (entries'.lookup name)) :
    f.ofRecord entries = f.ofRecord entries' := by
  induction h with
  | nil => rfl
  | @cons _ _ name codec absence rest places optional s hsound hnull hname _ ih =>
      have htail : rest.ofRecord entries = rest.ofRecord entries' := by
        refine ih fun other optional' s' hplace => halike other optional' s' ?_
        have hne : other ≠ name := by
          rintro rfl
          rw [lookup_eq_none_of_not_mem hname] at hplace
          cases hplace
        rw [lookup_cons_of_ne _ hne]
        exact hplace
      have hhead := halike name optional s List.lookup_cons_self
      unfold ofRecord
      rw [htail]
      generalize entries.lookup name = entry, entries'.lookup name = entry' at hhead
      cases hhead with
      | same => rfl
      | edited hedit => simp only [hsound.edited hedit]
      | absent hoptional => simp only [hnull hoptional]

/-- An edit of the entries makes no difference. -/
theorem Shaped.record_edited {listed : Bool} {entries entries' : Entries} (h : f.Shaped places)
    (hedit : Edit (.record listed places) (.record entries) (.record entries')) :
    f.ofRecord entries = f.ofRecord entries' :=
  h.record_alike fun _ _ _ hplace => hedit.entries_alike hplace

/-- A record with exactly the entries of its fields, in their order, is read like the list of its
values. -/
theorem Shaped.record_listed {entries : Entries} (h : f.Shaped places)
    (hnames : entries.map Prod.fst = places.map Prod.fst) :
    f.ofRecord entries = f.ofList (entries.map Prod.snd) := by
  induction h generalizing entries with
  | nil =>
      rw [List.map_nil, List.map_eq_nil_iff] at hnames
      subst hnames
      rfl
  | @cons _ _ name codec absence rest places optional s _ _ hname hrest ih =>
      cases entries with
      | nil => cases hnames
      | cons entry entries =>
          obtain ⟨name', t⟩ := entry
          obtain ⟨rfl, hnames'⟩ : name' = name ∧ entries.map Prod.fst = places.map Prod.fst := by
            simpa using hnames
          -- The later fields do not look at the first entry, which has none of their names.
          have htail : rest.ofRecord ((name', t) :: entries) = rest.ofRecord entries := by
            refine hrest.record_alike fun other _ _ hplace => ?_
            have hne : other ≠ name' := by
              rintro rfl
              rw [lookup_eq_none_of_not_mem hname] at hplace
              cases hplace
            rw [lookup_cons_of_ne t hne]
            exact .same _
          unfold ofRecord
          rw [htail, ih hnames', List.lookup_cons_self]
          rfl

/-- An edit of one value in the list makes no difference. -/
theorem Shaped.list_edited {before after : List Tree} {optional : Bool} {t t' : Tree}
    (h : f.Shaped places) (hplace : places[before.length]? = some (name, optional, s))
    (hedit : Edit s t t') :
    f.ofList (before ++ t :: after) = f.ofList (before ++ t' :: after) := by
  induction h generalizing before with
  | nil => cases hplace
  | @cons _ _ _ _ _ _ places _ _ hsound _ _ _ ih =>
      cases before with
      | nil =>
          obtain ⟨-, -, rfl⟩ : _ ∧ _ ∧ _ = s := by simpa using hplace
          simp [ofList, hsound.edited hedit]
      | cons first before =>
          have hrest : places[before.length]? = some (name, optional, s) := by simpa using hplace
          simp [ofList, ih hrest]

theorem Shaped.record_round_trip (h : f.Shaped places) (c : γ) :
    f.ofRecord (f.encode c) = some c := by
  rw [h.record_listed (h.encode_names c), h.list_round_trip]

/-- A record that may be given as a list. -/
theorem Shaped.sound (h : f.Shaped places) : f.codec.Sound (.record true places) where
  round_trip := h.record_round_trip
  edited {t t'} hedit := by
    cases t with
    | record entries =>
        cases t' with
        | record entries' => exact h.record_edited hedit
        | list items =>
            cases hedit with
            | enlist _ hnames => exact h.record_listed hnames
        | null | bool | int | float | text => cases hedit
    | list items =>
        cases hedit with
        | item before after name optional s t t' hplace hedit => exact h.list_edited hplace hedit
    | null | bool | int | float | text => cases hedit

/-- A record that may not be given as a list. -/
theorem Shaped.record_sound (h : f.Shaped places) :
    f.recordCodec.Sound (.record false places) where
  round_trip := h.record_round_trip
  edited {t t'} hedit := by
    cases t with
    | record entries =>
        cases t' with
        | record entries' => exact h.record_edited hedit
        | list | null | bool | int | float | text => cases hedit
    | list | null | bool | int | float | text => cases hedit

end Shaped

end Fields

end ArmControl
