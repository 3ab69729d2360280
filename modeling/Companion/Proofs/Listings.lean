import Companion.Proofs.Mirrors

/-!
What a backend lists. If it lists a namespace at all, it lists every slot of it with its octets, each
once, by rising key. Memory, databases and both of them behind any plan of failures do.
-/

namespace Companion

open Text Time

theorem Address.lt_irrefl (a : Address) : ¬ a < a := by
  rw [lt_def]
  rintro (h | ⟨_, h⟩) <;> exact String.lt_irrefl _ h

instance : Std.Irrefl fun a b : Address => a < b := ⟨Address.lt_irrefl⟩

/-- A backend that lists the slots of a namespace, each once, or fails. -/
class Lists (σ : Type) [Backend σ] [Faithful σ] : Prop where
  nodup_list : ∀ {space : String} {s : σ} {slots}, (Backend.list space s).1 = .ok slots →
    (slots.map Prod.fst).Nodup
  mem_list : ∀ {space : String} {s : σ} {slots}, (Backend.list space s).1 = .ok slots →
    ∀ key data, (key, data) ∈ slots ↔ Faithful.content s ⟨space, key⟩ = some data

/-- A backend that lists slots by rising key. -/
class ListsByKey (σ : Type) [Backend σ] : Prop where
  sorted_list : ∀ {space : String} {s : σ} {slots}, (Backend.list space s).1 = .ok slots →
    IsSorted slots

namespace Memory

theorem mem_slotsOf {space key : String} {data : Octets} {m : Memory} :
    (key, data) ∈ m.slotsOf space ↔ m.get? ⟨space, key⟩ = some data := by
  have hentry : (⟨space, key⟩, data) ∈ m.entries ↔ m.get? ⟨space, key⟩ = some data :=
    mem_iff_valueOf? m.sorted
  rw [← hentry, slotsOf, List.mem_map]
  constructor
  · rintro ⟨⟨⟨s, k⟩, d⟩, hmem, heq⟩
    obtain ⟨hin, hspace⟩ := List.mem_filter.mp hmem
    obtain ⟨rfl, rfl⟩ := Prod.mk.inj heq
    obtain rfl : s = space := by simpa using hspace
    exact hin
  · exact fun hmem => ⟨_, List.mem_filter.mpr ⟨hmem, by simp⟩, rfl⟩

/-- The slots of a namespace are listed by rising key. -/
theorem sorted_slotsOf (space : String) (m : Memory) : IsSorted (m.slotsOf space) := by
  refine List.pairwise_map.mpr (List.Pairwise.imp_of_mem ?_ (List.Pairwise.filter _ m.sorted))
  rintro ⟨a, x⟩ ⟨b, y⟩ ha hb hlt
  have hspaces : a.space = space ∧ b.space = space := by
    simpa using And.intro (List.mem_filter.mp ha).2 (List.mem_filter.mp hb).2
  rcases Address.lt_def.mp hlt with hspace | ⟨_, hkey⟩
  · rw [hspaces.1, hspaces.2] at hspace
    exact absurd hspace (String.lt_irrefl _)
  · exact hkey

theorem nodup_slotsOf (space : String) (m : Memory) : ((m.slotsOf space).map Prod.fst).Nodup :=
  (sorted_slotsOf space m).nodup_keys

theorem valueOf?_slotsOf (space key : String) (m : Memory) :
    valueOf? key (m.slotsOf space) = m.get? ⟨space, key⟩ :=
  Option.ext fun _ => (valueOf?_eq_some (nodup_slotsOf space m)).trans mem_slotsOf

instance : Lists Memory where
  nodup_list := by
    rintro space m slots h
    obtain rfl := Except.ok.inj h
    exact nodup_slotsOf space m
  mem_list := by
    rintro space m slots h key data
    obtain rfl := Except.ok.inj h
    exact mem_slotsOf

instance : ListsByKey Memory where
  sorted_list := by
    rintro space m slots h
    obtain rfl := Except.ok.inj h
    exact sorted_slotsOf space m

end Memory

/-- A database that lists a namespace lists what memory with the octets of its rows does. -/
theorem Database.list_eq_ok {space : String} {d : Database} {slots : List (String × Octets)}
    (h : (Backend.list space d).1 = .ok slots) :
    ∃ rows, content d = Memory.content (bare rows) ∧ slots = (bare rows).slotsOf space := by
  obtain ⟨rows, hrows, hanswer, _⟩ := onRows_ok h
  refine ⟨rows, ?_, ?_⟩
  · rw [hrows]
    funext slot
    exact (get?_bare rows slot).symm
  · rw [slotsOf_bare]
    exact (Except.ok.inj hanswer).symm

instance : Lists Database where
  nodup_list := by
    intro space d slots h
    obtain ⟨rows, _, rfl⟩ := Database.list_eq_ok h
    exact Memory.nodup_slotsOf space _
  mem_list := by
    intro space d slots h key data
    obtain ⟨rows, hcontent, rfl⟩ := Database.list_eq_ok h
    change _ ↔ Database.content d _ = _
    rw [hcontent]
    exact Memory.mem_slotsOf

instance : ListsByKey Database where
  sorted_list := by
    intro space d slots h
    obtain ⟨rows, _, rfl⟩ := Database.list_eq_ok h
    exact Memory.sorted_slotsOf space _

instance : Lists Medium where
  nodup_list := by
    intro space m slots h
    cases m with
    | memory m => exact Lists.nodup_list (s := m) h
    | database d => exact Lists.nodup_list (s := d) h
  mem_list := by
    intro space m slots h
    cases m with
    | memory m => exact Lists.mem_list (s := m) h
    | database d => exact Lists.mem_list (s := d) h

instance : ListsByKey Medium where
  sorted_list := by
    intro space m slots h
    cases m with
    | memory m => exact ListsByKey.sorted_list (s := m) h
    | database d => exact ListsByKey.sorted_list (s := d) h

instance {σ : Type} [Backend σ] [Faithful σ] [Lists σ] : Lists (Unreliable σ) where
  nodup_list := fun h => Lists.nodup_list (Unreliable.attempt_ok h).1
  mem_list := by
    intro space u slots h key data
    exact Lists.mem_list (s := u.slots) (Unreliable.attempt_ok h).1 key data

instance {σ : Type} [Backend σ] [ListsByKey σ] : ListsByKey (Unreliable σ) where
  sorted_list := fun h => ListsByKey.sorted_list (Unreliable.attempt_ok h).1

end Companion
