import AdminConsole.Json.Reader
import AdminConsole.Proofs.Json.Words

/-! # Values read back

A reader **returns** `a` for a value (`Reader.Returns`) when the text of the
value spells words from which the reader gets `a` and leaves whatever follows.
For a string this is seen from its one word.  For an object it follows member by
member: where each member is read as a change of the record under construction,
the object is read as the record after all these changes
(`Reader.returns_record`).

Whatever the order of the members and whatever else the object holds, a record
that is read results from such changes alone, so that what each of them keeps
holds of it (`Reader.record_keeps`).
-/
namespace AdminConsole.Json.Reader

open Token (Spells)

variable {α σ : Type}

/-- The value is written as words from which the reader gets `a`, leaving what follows them. -/
def Returns (reader : Reader α) (v : Json) (a : α) : Prop :=
  ∃ ws, Spells v.render.toList ws ∧ ∀ rest, reader (ws ++ rest) = .ok (a, rest)

/-- What a reader returns for a value is read from its text. -/
theorem document_render {reader : Reader α} {v : Json} {a : α} (h : reader.Returns v a) :
    document reader (Token.ofText v.render) = .ok a := by
  obtain ⟨ws, hspells, hread⟩ := h
  have hall := hread []
  rw [List.append_nil] at hall
  unfold document
  rw [Token.ofText_eq hspells, hall]

/-- A whole text is one value with nothing after it. -/
theorem of_document {reader : Reader α} {ts : List Token} {a : α} (h : document reader ts = .ok a) :
    reader ts = .ok (a, []) := by
  unfold document at h
  split at h
  · cases h
  · next hread =>
    cases h
    exact hread
  · cases h

/-! ## Strings -/

theorem returns_of_str {reader : Reader α} {s : String} {a : α}
    (h : ∀ rest, reader (.str (some s) :: rest) = .ok (a, rest)) : reader.Returns (.str s) a :=
  ⟨[.str (some s)], by rw [render]; exact .string s, h⟩

theorem returns_text (s : String) : text.Returns (.str s) s := returns_of_str fun _ => rfl

theorem returns_optional_text (s : String) : (optional text).Returns (.str s) (some s) :=
  returns_of_str fun _ => rfl

theorem returns_decoded {decode : String → Option α} {s : String} {a : α} (h : decode s = some a) :
    (decoded decode).Returns (.str s) a :=
  returns_of_str fun rest => by rw [decoded, h]

theorem returns_tag {decode : String → Option α} {s : String} {a : α} (h : decode s = some a) :
    (tag decode).Returns (.str s) a :=
  returns_of_str fun rest => by rw [tag, h]

/-! ## Objects -/

/-- A member of an object, with the change that reading it makes. -/
structure ReadMember (σ : Type) where
  name : String
  value : Json
  change : σ → σ

namespace ReadMember

/-- The member as the object holds it. -/
def pair (m : ReadMember σ) : String × Json := (m.name, m.value)

/-- A member whose value is read as `a`, which is put by `set`. -/
def of (name : String) (value : Json) (set : α → σ → σ) (a : α) : ReadMember σ where
  name := name
  value := value
  change := set a

/-- The member is one of the fields, which is read as the change. -/
def IsRead (fields : List (Field σ)) (m : ReadMember σ) : Prop :=
  ∃ field, fields.find? (·.name == m.name) = some field ∧ field.read.Returns m.value m.change

theorem isRead_of {reader : Reader α} {fields : List (Field σ)} {name : String} {v : Json} {a : α}
    {set : α → σ → σ} (hfield : fields.find? (·.name == name) = some (.of name reader set))
    (h : reader.Returns v a) : IsRead fields (of name v set a) := by
  obtain ⟨ws, hspells, hread⟩ := h
  refine ⟨_, hfield, ws, hspells, fun rest => ?_⟩
  show (reader (ws ++ rest)).map _ = _
  rw [hread]
  rfl

end ReadMember

variable {fields : List (Field σ)} {ms : List (ReadMember σ)}

/-- One member: its words, and what becomes of them before a closing brace and before a comma. -/
theorem members_member {m : ReadMember σ} (h : m.IsRead fields) : ∃ ws,
    Spells (renderString m.name ++ ":" ++ m.value.render).toList (.str (some m.name) :: ws) ∧
    ∀ fuel seen state, m.name ∉ seen →
      (∀ rest, members fields (fuel + 1) seen state
        (.str (some m.name) :: (ws ++ .closeBrace :: rest)) =
          .ok (m.change state, .closeBrace :: rest)) ∧
      ∀ rest, members fields (fuel + 1) seen state
        (.str (some m.name) :: (ws ++ .comma :: rest)) =
          members fields fuel (m.name :: seen) (m.change state) rest := by
  obtain ⟨field, hfield, ws, hspells, hread⟩ := h
  refine ⟨.colon :: ws, ?_, fun fuel seen state hseen => ⟨fun rest => ?_, fun rest => ?_⟩⟩
  · rw [String.toList_append, String.toList_append]
    exact ((Spells.string m.name).append .colon).append hspells
  · rw [List.cons_append, members, hfield]
    simp only [if_neg hseen, hread]
  · rw [List.cons_append, members, hfield]
    simp only [if_neg hseen, hread]

theorem toList_renderFields_cons (m m' : ReadMember σ) (ms : List (ReadMember σ)) :
    (renderFields ((m :: m' :: ms).map ReadMember.pair)).toList =
      (renderString m.name ++ ":" ++ m.value.render).toList ++
        ([','] ++ (renderFields ((m' :: ms).map ReadMember.pair)).toList) := by
  have hcomma : ",".toList = [','] := rfl
  simp only [List.map_cons, ReadMember.pair, renderFields, String.toList_append, hcomma,
    List.append_assoc]

/-- **The members of an object are read as their changes, one after the other.**  By induction on the
members; a name that is still to come has not been seen. -/
theorem members_render (hne : ms ≠ []) (hread : ∀ m ∈ ms, m.IsRead fields)
    (hnames : (ms.map ReadMember.name).Nodup) : ∃ name ws,
    Spells (renderFields (ms.map ReadMember.pair)).toList (.str (some name) :: ws) ∧
    ms.length ≤ ws.length + 1 ∧
    ∀ fuel seen state rest, ms.length ≤ fuel → (∀ m ∈ ms, m.name ∉ seen) →
      members fields fuel seen state (.str (some name) :: (ws ++ .closeBrace :: rest)) =
        .ok (ms.foldl (fun state m => m.change state) state, .closeBrace :: rest) := by
  induction ms with
  | nil => exact absurd rfl hne
  | cons m ms ih =>
    obtain ⟨ws, hspells, hmember⟩ := members_member (hread m List.mem_cons_self)
    cases ms with
    | nil =>
      refine ⟨m.name, ws, ?_, Nat.le_add_left 1 _, fun fuel seen state rest hfuel hseen => ?_⟩
      · rw [List.map_singleton, renderFields]
        exact hspells
      · cases fuel with
        | zero => exact absurd hfuel (Nat.not_succ_le_zero _)
        | succ fuel =>
          rw [(hmember fuel seen state (hseen m List.mem_cons_self)).1]
          rfl
    | cons m' ms =>
      rw [List.map_cons, List.nodup_cons] at hnames
      obtain ⟨name, ws', hspells', hlength, hmembers⟩ := ih (List.cons_ne_nil _ _)
        (fun n hn => hread n (List.mem_cons_of_mem m hn)) hnames.2
      refine ⟨m.name, ws ++ .comma :: .str (some name) :: ws', ?_, ?_,
        fun fuel seen state rest hfuel hseen => ?_⟩
      · have hall := hspells.append (Spells.append .comma hspells')
        rw [← toList_renderFields_cons] at hall
        exact hall
      · simp only [List.length_append, List.length_cons] at hlength ⊢
        omega
      · cases fuel with
        | zero => exact absurd hfuel (Nat.not_succ_le_zero _)
        | succ fuel =>
          have hfresh : ∀ n ∈ m' :: ms, n.name ∉ m.name :: seen := by
            intro n hn hmem
            rcases List.mem_cons.mp hmem with heq | hold
            · exact hnames.1 (heq ▸ List.mem_map_of_mem hn)
            · exact hseen n (List.mem_cons_of_mem m hn) hold
          rw [List.append_assoc, List.cons_append, List.cons_append,
            (hmember fuel seen state (hseen m List.mem_cons_self)).2,
            hmembers _ _ _ _ (Nat.le_of_succ_le_succ hfuel) hfresh]
          rfl

/-- **A record is read back from an object of its members**, if these give all that is needed. -/
theorem returns_record {start : σ} {finish : σ → Option α} {a : α} (hne : ms ≠ [])
    (hread : ∀ m ∈ ms, m.IsRead fields) (hnames : (ms.map ReadMember.name).Nodup)
    (hfinish : finish (ms.foldl (fun state m => m.change state) start) = some a) :
    (record fields start finish).Returns (.obj (ms.map ReadMember.pair)) a := by
  obtain ⟨name, ws, hspells, hlength, hmembers⟩ := members_render hne hread hnames
  refine ⟨.openBrace :: (.str (some name) :: ws) ++ [.closeBrace], ?_, fun rest => ?_⟩
  · rw [render, String.toList_append, String.toList_append]
    exact (Spells.append .openBrace hspells).append .closeBrace
  · have hall := hmembers (.str (some name) :: (ws ++ .closeBrace :: rest)).length [] start rest
      (by simp only [List.length_cons, List.length_append]; omega) (fun _ _ => List.not_mem_nil)
    simp only [List.cons_append, List.append_assoc, List.nil_append, record, hall, hfinish]

/-! ## What holds of every record that is read -/

/-- What is read by decoding a string is decoded from some string. -/
theorem exists_of_decoded {decode : String → Option α} {ts rest : List Token} {a : α}
    (h : decoded decode ts = .ok (a, rest)) : ∃ s, decode s = some a := by
  unfold decoded at h
  split at h
  · next s _ =>
    split at h
    · next hdecode =>
      cases h
      exact ⟨s, hdecode⟩
    · cases h
  · cases h

/-- Every change that reading the field can make keeps the property. -/
def Field.Keeps (field : Field σ) (P : σ → Prop) : Prop :=
  ∀ ts change rest, field.read ts = .ok (change, rest) → ∀ state, P state → P (change state)

theorem keeps_of {P : σ → Prop} {name : String} {reader : Reader α} {set : α → σ → σ}
    (h : ∀ ts a rest, reader ts = .ok (a, rest) → ∀ state, P state → P (set a state)) :
    (Field.of name reader set).Keeps P := by
  intro ts change rest hread state hstate
  have hmap : (reader ts).map (fun x => (set x.1, x.2)) = .ok (change, rest) := hread
  cases hreader : reader ts with
  | error e =>
    rw [hreader] at hmap
    cases hmap
  | ok x =>
    rw [hreader] at hmap
    cases hmap
    exact h ts x.1 x.2 hreader state hstate

variable {P : σ → Prop}

theorem members_keeps (hfields : ∀ field ∈ fields, field.Keeps P) {fuel : Nat} {seen : List String}
    {state state' : σ} {ts rest : List Token} (hstate : P state)
    (h : members fields fuel seen state ts = .ok (state', rest)) : P state' := by
  fun_induction members fields fuel seen state ts with
  | case3 fuel seen state name continueWith field hfind hseen ts change after hread ih =>
    have hchanged := hfields field (List.mem_of_find?_eq_some hfind) _ _ _ hread _ hstate
    dsimp only [continueWith] at h
    split at h
    · cases h
      exact hchanged
    · exact ih _ _ _ hchanged h
    · cases h
  | case6 fuel seen state name continueWith hfind ts after hskip ih =>
    -- An unknown member is passed over.
    dsimp only [continueWith] at h
    split at h
    · cases h
      exact hstate
    · exact ih _ _ _ hstate h
    · cases h
  | _ => cases h

theorem items_keeps (hfields : ∀ field ∈ fields, field.Keeps P) {first : Bool} {state state' : σ}
    {ts rest : List Token} (hstate : P state)
    (h : items fields first state ts = .ok (state', rest)) : P state' := by
  fun_induction items fields first state ts with
  | case1 =>
    cases h
    exact hstate
  | case3 field fields state ts hopen change after hread ih =>
    exact ih (fun f hf => hfields f (List.mem_cons_of_mem field hf))
      (hfields field List.mem_cons_self _ _ _ hread _ hstate) h
  | case6 field fields state ts change after hread hopen ih =>
    rw [hread] at h
    exact ih (fun f hf => hfields f (List.mem_cons_of_mem field hf))
      (hfields field List.mem_cons_self _ _ _ hread _ hstate) h
  | case7 field fields state ts e hread =>
    rw [hread] at h
    cases h
  | _ => cases h

/-- **What every change keeps holds of a record that is read.** -/
theorem record_keeps {start : σ} {finish : σ → Option α} {a : α} {ts rest : List Token}
    (hfields : ∀ field ∈ fields, field.Keeps P) (hstart : P start)
    (h : record fields start finish ts = .ok (a, rest)) : ∃ state, P state ∧ finish state = some a := by
  unfold record at h
  split at h
  · -- An object, which may have no members at all.
    dsimp only at h
    split at h
    · cases h
    · next state after hread =>
      have hstate : P state := by
        split at hread
        · cases hread
          exact hstart
        · exact members_keeps hfields hstart hread
      split at h
      · cases h
      · next hfinish =>
        split at h
        · cases h
          exact ⟨_, hstate, hfinish⟩
        · cases h
  · split at h
    · cases h
    · next hitems =>
      have hstate := items_keeps hfields hstart hitems
      split at h
      · cases h
      · next hfinish =>
        split at h
        · cases h
          exact ⟨_, hstate, hfinish⟩
        · cases h
  · cases h

end AdminConsole.Json.Reader
