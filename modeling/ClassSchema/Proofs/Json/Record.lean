import ClassSchema.Json.Decoder
import ClassSchema.Proofs.Outcome

/-
# Records and the order of their members

A record is read member by member, in the order of the text, and what has been read is gathered in
slots.  Here this order is shown not to count.  Members that stand in their order of declaration
fill the slots from the first to the last, with gaps where a member has been left out
(`Given.exists_members`).  Members of other names change no slot (`members_of_forall_not_mem`).  And
two members that follow each other may change places (`member_comm`), so any order does
(`members_of_perm`).  Together they say what is read of an object in which the members of a record
stand among others (`Given.record_eq`).
-/

namespace ClassSchema.Json

open Decoder Outcome

variable {α : Type}

namespace Fields

/-! ### Members in their order of declaration -/

/-- The names of the members of a record. -/
def names : {τs : List Type} → Fields τs → List String
  | _, nil => []
  | _, cons name _ _ rest => name :: rest.names

/-- The members stand in their order of declaration and are read as the row.  A member that may be
absent is left out or given, when the row has its default. -/
def Given (src : Source) : {τs : List Type} → Fields τs → List (Key × Tree) → Row τs → Prop
  | _, nil, mts, () => mts = []
  | _, cons name read absent rest, mts, (x, row) =>
    (∃ key t mts', mts = (key, t) :: mts' ∧ key.text = some name ∧ read src t = .ok x ∧
      rest.Given src mts' row) ∨ absent = some x ∧ rest.Given src mts row

lemma members_cons {τs : List Type} (fs : Fields τs) (src : Source) (key : Key) (t : Tree)
    (mts : List (Key × Tree)) (slots : Slots τs) : fs.members src ((key, t) :: mts) slots =
      key.value >>= fun name => fs.member src name t slots >>= fs.members src mts := rfl

/-- Members with other names do not touch the first field. -/
lemma members_cons_of_forall_ne {τ : Type} {τs : List Type} {name : String} {read : Decoder τ}
    {absent : Option τ} {rest : Fields τs} (src : Source) {mts : List (Key × Tree)}
    (h : ∀ m ∈ mts, ∀ other, m.1.text = some other → other ≠ name) (slot : Option τ)
    (slots : Slots τs) : (cons name read absent rest).members src mts (slot, slots) =
      (rest.members src mts slots).map fun slots => (slot, slots) := by
  induction mts generalizing slots with
  | nil => rfl
  | cons m mts ih =>
    obtain ⟨key, t⟩ := m
    refine (members_cons _ src key t mts _).trans ?_
    rw [members_cons rest]
    cases hkey : key.value with
    | error f => rfl
    | ok other =>
      have htext : key.text = some other := by
        unfold Key.value at hkey
        split at hkey
        next hsome => rw [hsome, Except.ok.inj hkey]
        next => cases hkey
      have hne : other ≠ name := h _ List.mem_cons_self other htext
      have hmember : (cons name read absent rest).member src other t (slot, slots) =
          rest.member src other t slots >>= fun slots => .ok (slot, slots) := if_neg hne
      rw [ok_bind, ok_bind, hmember]
      cases rest.member src other t slots with
      | error f => rfl
      | ok slots' => exact ih (fun m hm => h m (List.mem_cons_of_mem _ hm)) slots'

lemma Given.text_mem {τs : List Type} {fs : Fields τs} {src : Source} {mts : List (Key × Tree)}
    {row : Row τs} (h : fs.Given src mts row) :
    ∀ m ∈ mts, ∃ name ∈ fs.names, m.1.text = some name := by
  induction fs generalizing mts with
  | nil =>
    obtain rfl : mts = [] := h
    simp
  | cons name read absent rest ih =>
    obtain ⟨x, row⟩ := row
    intro m hm
    obtain ⟨key, t, mts', rfl, hkey, -, hrest⟩ | ⟨-, hrest⟩ := h
    · rcases List.mem_cons.1 hm with rfl | hm
      · exact ⟨name, List.mem_cons_self, hkey⟩
      · obtain ⟨other, hother, htext⟩ := ih hrest m hm
        exact ⟨other, List.mem_cons_of_mem _ hother, htext⟩
    · obtain ⟨other, hother, htext⟩ := ih hrest m hm
      exact ⟨other, List.mem_cons_of_mem _ hother, htext⟩

/-- Members in their order of declaration fill the slots one after the other. -/
lemma Given.exists_members {τs : List Type} {fs : Fields τs} {src : Source}
    {mts : List (Key × Tree)} {row : Row τs} (h : fs.Given src mts row)
    (hnames : fs.names.Nodup) :
    ∃ slots, fs.members src mts fs.noSlots = .ok slots ∧ fs.complete slots = .ok row := by
  induction fs generalizing mts with
  | nil =>
    obtain rfl : mts = [] := h
    exact ⟨(), rfl, rfl⟩
  | cons name read absent rest ih =>
    obtain ⟨x, row⟩ := row
    rw [names, List.nodup_cons] at hnames
    -- the members of the other fields have their names, so they pass this field by
    have hothers : ∀ mts' : List (Key × Tree), rest.Given src mts' row →
        ∀ m ∈ mts', ∀ other, m.1.text = some other → other ≠ name := by
      rintro mts' hrest m hm other htext rfl
      obtain ⟨name', hname', htext'⟩ := hrest.text_mem m hm
      rw [htext] at htext'
      exact hnames.1 (Option.some.inj htext' ▸ hname')
    obtain ⟨key, t, mts', rfl, hkey, hread, hrest⟩ | ⟨habsent, hrest⟩ := h
    · obtain ⟨slots, hslots, hcomplete⟩ := ih hrest hnames.2
      have hvalue : key.value = .ok name := by rw [Key.value, hkey]
      have hmember : (cons name read absent rest).member src name t (none, rest.noSlots) =
          .ok (some x, rest.noSlots) := by
        rw [member, if_pos rfl, if_neg (by simp), hread, ok_bind]
      refine ⟨(some x, slots), ?_, ?_⟩
      · refine (members_cons _ src key t mts' _).trans ?_
        rw [hvalue, ok_bind]
        refine (congrArg (· >>= _) hmember).trans ?_
        refine (members_cons_of_forall_ne src (hothers _ hrest) _ _).trans ?_
        rw [hslots]
        rfl
      · change (rest.complete slots >>= fun row => .ok (x, row)) = _
        rw [hcomplete]
        rfl
    · obtain ⟨slots, hslots, hcomplete⟩ := ih hrest hnames.2
      refine ⟨(none, slots), ?_, ?_⟩
      · refine (members_cons_of_forall_ne src (hothers _ hrest) _ _).trans ?_
        rw [hslots]
        rfl
      · subst habsent
        change (rest.complete slots >>= fun row => .ok (x, row)) = _
        rw [hcomplete]
        rfl

section

variable {τ : Type} {τs : List Type} {name other : String} {read : Decoder τ} {absent : Option τ}
  {rest : Fields τs} {src : Source} {t : Tree} {slot : Option τ} {slots : Slots τs}

/-- The first field is read if it has not been read before. -/
lemma member_cons_self_eq_ok_iff {result : Slots (τ :: τs)} :
    (cons name read absent rest).member src name t (slot, slots) = .ok result ↔
      slot = none ∧ ∃ x, read src t = .ok x ∧ result = (some x, slots) := by
  rw [member, if_pos rfl]
  cases slot with
  | some x => simp
  | none =>
    rw [Option.isSome_none, if_neg Bool.false_ne_true, bind_eq_ok_iff]
    simp only [true_and]
    exact exists_congr fun x => and_congr_right' ⟨fun h => (Except.ok.inj h).symm, fun h => h ▸ rfl⟩

/-- A member with another name leaves the first field as it is. -/
lemma member_cons_of_ne_eq_ok_iff (h : other ≠ name) {result : Slots (τ :: τs)} :
    (cons name read absent rest).member src other t (slot, slots) = .ok result ↔
      ∃ slots', rest.member src other t slots = .ok slots' ∧ result = (slot, slots') := by
  rw [member, if_neg h, bind_eq_ok_iff]
  exact exists_congr fun _ => and_congr_right' ⟨fun h => (Except.ok.inj h).symm, fun h => h ▸ rfl⟩

end

variable {τs : List Type} {fs : Fields τs} {src : Source} {slots slots₁ slots₂ : Slots τs}

/-- Two members that are read one after the other are read in the other order, too. -/
lemma member_comm {name₁ name₂ : String} {t₁ t₂ : Tree}
    (h₁ : fs.member src name₁ t₁ slots = .ok slots₁)
    (h₂ : fs.member src name₂ t₂ slots₁ = .ok slots₂) :
    ∃ slots', fs.member src name₂ t₂ slots = .ok slots' ∧
      fs.member src name₁ t₁ slots' = .ok slots₂ := by
  induction fs with
  | nil => exact ⟨(), h₂, h₁⟩
  | cons name read absent rest ih =>
    obtain ⟨slot, slots⟩ := slots
    by_cases hname₁ : name₁ = name
    · subst hname₁
      obtain ⟨rfl, x, hx, rfl⟩ := member_cons_self_eq_ok_iff.1 h₁
      by_cases hname₂ : name₂ = name₁
      · subst hname₂
        obtain ⟨hnone, -⟩ := member_cons_self_eq_ok_iff.1 h₂
        cases hnone
      · obtain ⟨slots', hslots', rfl⟩ := (member_cons_of_ne_eq_ok_iff hname₂).1 h₂
        exact ⟨_, (member_cons_of_ne_eq_ok_iff hname₂).2 ⟨slots', hslots', rfl⟩,
          member_cons_self_eq_ok_iff.2 ⟨rfl, x, hx, rfl⟩⟩
    · obtain ⟨slots', hslots', rfl⟩ := (member_cons_of_ne_eq_ok_iff hname₁).1 h₁
      by_cases hname₂ : name₂ = name
      · subst hname₂
        obtain ⟨rfl, x, hx, rfl⟩ := member_cons_self_eq_ok_iff.1 h₂
        exact ⟨_, member_cons_self_eq_ok_iff.2 ⟨rfl, x, hx, rfl⟩,
          (member_cons_of_ne_eq_ok_iff hname₁).2 ⟨slots', hslots', rfl⟩⟩
      · obtain ⟨slots'', hslots'', rfl⟩ := (member_cons_of_ne_eq_ok_iff hname₂).1 h₂
        obtain ⟨slots₃, hfirst, hsecond⟩ := ih hslots' hslots''
        exact ⟨_, (member_cons_of_ne_eq_ok_iff hname₂).2 ⟨slots₃, hfirst, rfl⟩,
          (member_cons_of_ne_eq_ok_iff hname₁).2 ⟨slots'', hsecond, rfl⟩⟩

/-- Members that can be read can be read in any order, to the same effect. -/
lemma members_of_perm {mts mts' : List (Key × Tree)} (hperm : mts.Perm mts')
    (h : fs.members src mts slots = .ok slots₁) : fs.members src mts' slots = .ok slots₁ := by
  induction hperm generalizing slots with
  | nil => exact h
  | cons m _ ih =>
    obtain ⟨key, t⟩ := m
    rw [members_cons] at h ⊢
    obtain ⟨name, hname, h⟩ := bind_eq_ok_iff.1 h
    obtain ⟨slots', hmember, h⟩ := bind_eq_ok_iff.1 h
    rw [hname, ok_bind, hmember, ok_bind]
    exact ih h
  | swap m m' rest =>
    obtain ⟨key, t⟩ := m
    obtain ⟨key', t'⟩ := m'
    rw [members_cons] at h ⊢
    obtain ⟨name', hname', h⟩ := bind_eq_ok_iff.1 h
    obtain ⟨slots', hmember', h⟩ := bind_eq_ok_iff.1 h
    rw [members_cons] at h
    obtain ⟨name, hname, h⟩ := bind_eq_ok_iff.1 h
    obtain ⟨slots'', hmember, h⟩ := bind_eq_ok_iff.1 h
    obtain ⟨slots₃, hfirst, hsecond⟩ := member_comm hmember' hmember
    rw [hname, ok_bind, hfirst, ok_bind, members_cons, hname', ok_bind, hsecond, ok_bind]
    exact h
  | trans _ _ ih ih' => exact ih' (ih h)

lemma members_append (mts mts' : List (Key × Tree)) : fs.members src (mts ++ mts') slots =
    fs.members src mts slots >>= fs.members src mts' := by
  induction mts generalizing slots with
  | nil => rfl
  | cons m rest ih =>
    obtain ⟨key, t⟩ := m
    rw [List.cons_append, members_cons, members_cons, bind_assoc]
    refine bind_congr fun name => ?_
    rw [bind_assoc]
    exact bind_congr fun slots' => ih

/-- A member of no field is passed over. -/
lemma member_of_not_mem {name : String} {t : Tree} (hname : name ∉ fs.names)
    (ht : t.intact = true) : fs.member src name t slots = .ok slots := by
  induction fs with
  | nil =>
    change (t.skip >>= fun _ => .ok ()) = _
    rw [Tree.skip, if_pos ht]
    rfl
  | cons field read absent rest ih =>
    obtain ⟨slot, slots⟩ := slots
    rw [names, List.mem_cons, not_or] at hname
    exact (member_cons_of_ne_eq_ok_iff hname.1).2 ⟨slots, ih hname.2, rfl⟩

/-- Members of no field are passed over. -/
lemma members_of_forall_not_mem {mts : List (Key × Tree)}
    (h : ∀ m ∈ mts, m.2.intact = true ∧ ∃ name ∉ fs.names, m.1.text = some name) :
    fs.members src mts slots = .ok slots := by
  induction mts with
  | nil => rfl
  | cons m rest ih =>
    obtain ⟨key, t⟩ := m
    obtain ⟨ht, name, hname, htext⟩ := h _ List.mem_cons_self
    have hvalue : key.value = .ok name := by rw [Key.value, htext]
    rw [members_cons, hvalue, ok_bind, member_of_not_mem hname ht, ok_bind]
    exact ih fun m hm => h m (List.mem_cons_of_mem _ hm)

/-- A record is read from its members and from members of other names, in any order. -/
lemma Given.record_eq {given extra members : List (Key × Tree)} {row : Row τs}
    (h : fs.Given src.inner given row) (hnames : fs.names.Nodup)
    (hextra : ∀ m ∈ extra, m.2.intact = true ∧ ∃ name ∉ fs.names, m.1.text = some name)
    (hperm : members.Perm (given ++ extra)) (what : String) (make : Row τs → α) :
    record what fs make src (.object members .closed) = .ok (make row) := by
  obtain ⟨slots, hslots, hcomplete⟩ := h.exists_members hnames
  have hmembers : fs.members src.inner (given ++ extra) fs.noSlots = .ok slots := by
    rw [members_append, hslots, ok_bind]
    exact members_of_forall_not_mem hextra
  rw [record, members_of_perm hperm.symm hmembers, ok_bind]
  change (do let row ← fs.complete slots; .ok (make row)) = _
  rw [hcomplete, ok_bind]

end Fields

end ClassSchema.Json
