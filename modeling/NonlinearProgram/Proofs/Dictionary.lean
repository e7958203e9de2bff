import Mathlib.Data.List.Induction
import NonlinearProgram.Dictionary

/-!
# Layers of dictionaries

Writing one dictionary over another keeps the order of the keys that were there and puts new keys
after them, so a key is found in the upper dictionary where that has it and in the lower one
otherwise. Renaming afterwards is another matter. Of several keys that get one name the last one
counts, wherever it came from: a layer has its way with a name if it brings a new key for it, or if
the last of the keys that were there is among its own. A layer that does not have its way leaves no
trace.
-/

namespace NonlinearProgram.Dictionary

variable {β : Type}

def lastValue? (pairs : List (String × β)) (key : String) : Option β :=
  ((pairs.filter fun p => p.1 = key).getLast?).map (·.2)

theorem lastValue?_append (ps qs : List (String × β)) (key : String) :
    lastValue? (ps ++ qs) key = (lastValue? qs key).or (lastValue? ps key) := by
  unfold lastValue?
  rw [List.filter_append, List.getLast?_append, Option.map_or]

theorem lastValue?_singleton (p : String × β) (key : String) :
    lastValue? [p] key = if key = p.1 then some p.2 else none := by
  by_cases h : key = p.1
  · simp [lastValue?, h]
  · simp [lastValue?, h, Ne.symm h]

theorem lastValue?_isSome_iff {pairs : List (String × β)} {key : String} :
    (lastValue? pairs key).isSome = true ↔ key ∈ keys pairs := by
  induction pairs with
  | nil => simp [lastValue?, keys]
  | cons p pairs ih =>
      rw [← List.singleton_append, lastValue?_append, Option.isSome_or, Bool.or_eq_true, ih,
        lastValue?_singleton]
      by_cases h : key = p.1 <;> simp [keys, h]

theorem get?_update (d : Dictionary β) (pairs : List (String × β)) (key : String) :
    (update d pairs).get? key = (lastValue? pairs key).or (d.get? key) := by
  induction pairs generalizing d with
  | nil => rfl
  | cons p pairs ih =>
      change (update (put p.1 p.2 d) pairs).get? key = _
      rw [ih, get?_put, ← List.singleton_append, lastValue?_append, lastValue?_singleton,
        Option.or_assoc]
      by_cases h : key = p.1 <;> simp [h]

theorem get?_ofPairs (pairs : List (String × β)) (key : String) :
    (ofPairs pairs).get? key = lastValue? pairs key := by
  rw [ofPairs, get?_update, get?_nil, Option.or_none]

theorem keys_put (d : Dictionary β) (key : String) (v : β) :
    keys (put key v d) = if key ∈ keys d then keys d else keys d ++ [key] := by
  induction d with
  | nil => rfl
  | cons p rest ih =>
      obtain ⟨k, w⟩ := p
      by_cases h : k = key
      · simp [put, keys, h]
      · have hput : keys (put key v ((k, w) :: rest)) = k :: keys (put key v rest) := by
          simp [put, keys, h]
        rw [hput, ih]
        by_cases hmem : key ∈ keys rest <;> simp [keys] at hmem ⊢ <;> simp [hmem, Ne.symm h]

/-- Writing keeps the keys that were there in their order, and puts those that were not after
them. -/
theorem keys_update (d : Dictionary β) (pairs : List (String × β)) :
    ∃ fresh, keys (update d pairs) = keys d ++ fresh ∧
      ∀ key, key ∈ fresh ↔ key ∈ keys pairs ∧ key ∉ keys d := by
  induction pairs using List.reverseRecOn with
  | nil => exact ⟨[], (List.append_nil _).symm, by simp [keys]⟩
  | append_singleton pairs p ih =>
      obtain ⟨fresh, hkeys, hfresh⟩ := ih
      have hwrite : update d (pairs ++ [p]) = put p.1 p.2 (update d pairs) := by
        rw [update, List.foldl_append]
        rfl
      have hmemkeys : ∀ key, key ∈ keys (pairs ++ [p]) ↔ key ∈ keys pairs ∨ key = p.1 := by
        simp [keys]
      rw [hwrite, keys_put, hkeys]
      by_cases hmem : p.1 ∈ keys d ++ fresh
      · refine ⟨fresh, if_pos hmem, fun key => ?_⟩
        rw [List.mem_append, hfresh] at hmem
        rw [hfresh, hmemkeys]
        grind
      · refine ⟨fresh ++ [p.1], ?_, fun key => ?_⟩
        · rw [if_neg hmem, List.append_assoc]
        · rw [List.mem_append, hfresh] at hmem
          rw [List.mem_append, List.mem_singleton, hfresh, hmemkeys]
          grind

theorem nodup_keys_update {d : Dictionary β} (hd : (keys d).Nodup) (pairs : List (String × β)) :
    (keys (update d pairs)).Nodup := by
  induction pairs generalizing d with
  | nil => exact hd
  | cons p pairs ih =>
      refine ih (d := put p.1 p.2 d) ?_
      rw [keys_put]
      split
      · exact hd
      · next hmem =>
          exact List.nodup_append.2 ⟨hd, List.nodup_cons.2 ⟨nofun, List.nodup_nil⟩, by grind⟩

theorem get?_of_mem {d : Dictionary β} (hd : (keys d).Nodup) {p : String × β} (hp : p ∈ d) :
    d.get? p.1 = some p.2 := by
  induction d with
  | nil => cases hp
  | cons q rest ih =>
      rw [keys, List.map_cons, List.nodup_cons] at hd
      rw [get?_cons]
      rcases List.mem_cons.1 hp with rfl | hp
      · exact if_pos rfl
      · have hne : p.1 ≠ q.1 := by
          rintro heq
          exact hd.1 (heq ▸ List.mem_map_of_mem hp)
        rw [if_neg hne]
        exact ih hd.2 hp

theorem nodup_keys_put {d : Dictionary β} (hd : (keys d).Nodup) (key : String) (v : β) :
    (keys (put key v d)).Nodup :=
  nodup_keys_update hd [(key, v)]

theorem get?_eq_none_iff {d : Dictionary β} {key : String} :
    d.get? key = none ↔ key ∉ keys d := by
  induction d with
  | nil => simp [keys]
  | cons p rest ih =>
      rw [get?_cons, keys, List.map_cons, List.mem_cons, not_or]
      by_cases h : key = p.1
      · simp [h]
      · rw [if_neg h, ih]
        simp [h, keys]

theorem mem_of_get? {d : Dictionary β} {key : String} {v : β} (h : d.get? key = some v) :
    (key, v) ∈ d := by
  induction d with
  | nil => cases h
  | cons p rest ih =>
      rw [get?_cons] at h
      split at h
      · next hkey =>
          cases h
          rw [hkey]
          exact List.mem_cons_self
      · exact List.mem_cons_of_mem p (ih h)

theorem mem_iff_get? {d : Dictionary β} (hd : (keys d).Nodup) {p : String × β} :
    p ∈ d ↔ d.get? p.1 = some p.2 :=
  ⟨get?_of_mem hd, mem_of_get?⟩

theorem mem_keys_iff {d : Dictionary β} (hd : (keys d).Nodup) {key : String} :
    key ∈ keys d ↔ (d.get? key).isSome = true := by
  rw [Option.isSome_iff_exists, keys, List.mem_map]
  constructor
  · rintro ⟨p, hp, rfl⟩
    exact ⟨p.2, get?_of_mem hd hp⟩
  · rintro ⟨v, hv⟩
    exact ⟨(key, v), mem_of_get? hv, rfl⟩

theorem keys_without (d : Dictionary β) (left : List String) :
    keys (d.without left) = (keys d).filter fun key => !left.contains key := by
  rw [keys, keys, List.filter_map]
  rfl

theorem without_nil (d : Dictionary β) : d.without [] = d := by
  simp [without]

theorem get?_without (d : Dictionary β) (left : List String) (key : String) :
    (d.without left).get? key = if key ∈ left then none else d.get? key := by
  induction d with
  | nil => simp [without]
  | cons p rest ih =>
      by_cases hp : p.1 ∈ left
      · have hskip : without (p :: rest) left = without rest left := by simp [without, hp]
        rw [hskip, ih, get?_cons]
        by_cases hkey : key = p.1
        · rw [hkey, if_pos hp, if_pos hp]
        · rw [if_neg hkey]
      · have hkeep : without (p :: rest) left = p :: without rest left := by simp [without, hp]
        rw [hkeep, get?_cons, get?_cons, ih]
        by_cases hkey : key = p.1
        · rw [if_pos hkey, if_pos hkey, hkey, if_neg hp]
        · rw [if_neg hkey, if_neg hkey]

section Renaming

variable (name : String → String) (option : String)

def lastSpelling? (keys : List String) : Option String :=
  (keys.filter fun key => name key = option).getLast?

theorem lastSpelling?_append (ks ls : List String) :
    lastSpelling? name option (ks ++ ls) =
      (lastSpelling? name option ls).or (lastSpelling? name option ks) := by
  unfold lastSpelling?
  rw [List.filter_append, List.getLast?_append]

variable {name option}

theorem mem_of_lastSpelling? {keys : List String} {key : String}
    (h : lastSpelling? name option keys = some key) : key ∈ keys ∧ name key = option := by
  simpa using List.mem_filter.1 (List.mem_of_getLast? h)

theorem lastSpelling?_eq_none_iff {keys : List String} :
    lastSpelling? name option keys = none ↔ ∀ key ∈ keys, name key ≠ option := by
  simp [lastSpelling?]

theorem nodup_keys_rename (d : Dictionary β) (name : String → String) :
    (keys (d.rename name)).Nodup :=
  nodup_keys_update (d := []) List.nodup_nil _

theorem mem_keys_rename {d : Dictionary β} :
    option ∈ keys (d.rename name) ↔ ∃ key ∈ keys d, name key = option := by
  obtain ⟨fresh, hkeys, hfresh⟩ := keys_update [] (d.map fun p => (name p.1, p.2))
  rw [rename, ofPairs, hkeys, List.mem_append, hfresh]
  simp [keys]

theorem get?_rename {d : Dictionary β} (hd : (keys d).Nodup) :
    (d.rename name).get? option = (lastSpelling? name option (keys d)).bind d.get? := by
  have hkeys : (keys d).filter (fun key => name key = option) =
      (d.filter fun p => name p.1 = option).map (·.1) := by
    rw [keys, List.filter_map]
    rfl
  have hpairs : (d.map fun p => (name p.1, p.2)).filter (fun p => p.1 = option) =
      (d.filter fun p => name p.1 = option).map fun p => (name p.1, p.2) := by
    rw [List.filter_map]
    rfl
  rw [rename, get?_ofPairs, lastValue?, hpairs, lastSpelling?, hkeys, List.getLast?_map,
    List.getLast?_map, Option.map_map]
  cases hlast : (d.filter fun p => name p.1 = option).getLast? with
  | none => rfl
  | some p =>
      have hmem := (List.mem_filter.1 (List.mem_of_getLast? hlast)).1
      exact (get?_of_mem hd hmem).symm

end Renaming

section Layers

variable (name : String → String) (option : String)

def layered (layers : List (Dictionary β)) : Dictionary β :=
  layers.foldr (fun layer lower => lower.update layer) []

def Spells (layer : Dictionary β) : Prop := ∃ key ∈ keys layer, name key = option

/-- A layer gives a value to a key that gets the name. -/
def Gives (layer : Dictionary β) (v : β) : Prop :=
  ∃ key, name key = option ∧ lastValue? layer key = some v

/-- A layer brings a new key for the name, or it has the last of the keys for it below. -/
def Prevails (layer : Dictionary β) (lower : List (Dictionary β)) : Prop :=
  (∃ key ∈ keys layer, name key = option ∧ key ∉ keys (layered lower)) ∨
    ∃ key ∈ keys layer, lastSpelling? name option (keys (layered lower)) = some key

/-- What is found is a value of the first layer that counts, and nothing where none does. Which
layers count may depend on those below. -/
inductive Chosen (counts : Dictionary β → List (Dictionary β) → Prop)
    (gives : Dictionary β → β → Prop) : List (Dictionary β) → Option β → Prop
  | nothing : Chosen counts gives [] none
  | taken {layer : Dictionary β} {lower : List (Dictionary β)} {v : β} (h : counts layer lower)
      (hv : gives layer v) : Chosen counts gives (layer :: lower) (some v)
  | passed {layer : Dictionary β} {lower : List (Dictionary β)} {found : Option β}
      (h : ¬counts layer lower) (hfound : Chosen counts gives lower found) :
      Chosen counts gives (layer :: lower) found

theorem nodup_keys_layered (layers : List (Dictionary β)) : (keys (layered layers)).Nodup := by
  induction layers with
  | nil => exact List.nodup_nil
  | cons layer lower ih => exact nodup_keys_update ih layer

theorem mem_keys_layered {layers : List (Dictionary β)} {key : String} :
    key ∈ keys (layered layers) ↔ ∃ layer ∈ layers, key ∈ keys layer := by
  induction layers with
  | nil => simp [layered, keys]
  | cons layer lower ih =>
      obtain ⟨fresh, hkeys, hfresh⟩ := keys_update (layered lower) layer
      change key ∈ keys (update (layered lower) layer) ↔ _
      rw [hkeys, List.mem_append, hfresh, ih]
      grind

variable {name option}

theorem Prevails.spells {layer : Dictionary β} {lower : List (Dictionary β)}
    (h : Prevails name option layer lower) : Spells name option layer := by
  rcases h with ⟨key, hkey, hname, -⟩ | ⟨key, hkey, hlast⟩
  · exact ⟨key, hkey, hname⟩
  · exact ⟨key, hkey, (mem_of_lastSpelling? hlast).2⟩

/-- Where the layers below have at most one key for the name, a layer that has some prevails. -/
theorem Spells.prevails {layer : Dictionary β} {lower : List (Dictionary β)}
    (h : Spells name option layer)
    (hone : ∀ k ∈ keys (layered lower), ∀ l ∈ keys (layered lower),
      name k = option → name l = option → k = l) : Prevails name option layer lower := by
  obtain ⟨key, hkey, hname⟩ := h
  by_cases hmem : key ∈ keys (layered lower)
  · refine .inr ⟨key, hkey, ?_⟩
    cases hlast : lastSpelling? name option (keys (layered lower)) with
    | none => exact absurd hname (lastSpelling?_eq_none_iff.1 hlast key hmem)
    | some last =>
        obtain ⟨hlastmem, hlastname⟩ := mem_of_lastSpelling? hlast
        rw [hone last hlastmem key hmem hlastname hname]
  · exact .inl ⟨key, hkey, hname, hmem⟩

theorem gives_of_mem_keys {layer lower : Dictionary β} {key : String} (hkey : key ∈ keys layer)
    (hname : name key = option) :
    ∃ v, (update lower layer).get? key = some v ∧ Gives name option layer v := by
  obtain ⟨v, hv⟩ := Option.isSome_iff_exists.1 (lastValue?_isSome_iff.2 hkey)
  refine ⟨v, ?_, key, hname, hv⟩
  rw [get?_update, hv, Option.some_or]

theorem Prevails.get?_rename {layer : Dictionary β} {lower : List (Dictionary β)}
    (h : Prevails name option layer lower) :
    ∃ v, ((layered (layer :: lower)).rename name).get? option = some v ∧
      Gives name option layer v := by
  obtain ⟨fresh, hkeys, hfresh⟩ := keys_update (layered lower) layer
  rw [Dictionary.get?_rename (nodup_keys_layered _)]
  change ∃ v, (lastSpelling? name option (keys (update (layered lower) layer))).bind
    (update (layered lower) layer).get? = some v ∧ _
  rw [hkeys, lastSpelling?_append]
  -- The keys that the layer brings come after all that were there.
  cases hlast : lastSpelling? name option fresh with
  | some key =>
      obtain ⟨hmem, hname⟩ := mem_of_lastSpelling? hlast
      exact gives_of_mem_keys ((hfresh key).1 hmem).1 hname
  | none =>
      rw [lastSpelling?_eq_none_iff] at hlast
      rcases h with ⟨key, hkey, hname, hnew⟩ | ⟨key, hkey, hlower⟩
      · exact absurd hname (hlast key ((hfresh key).2 ⟨hkey, hnew⟩))
      · rw [hlower]
        exact gives_of_mem_keys hkey (mem_of_lastSpelling? hlower).2

theorem get?_rename_of_not_prevails {layer : Dictionary β} {lower : List (Dictionary β)}
    (h : ¬Prevails name option layer lower) :
    ((layered (layer :: lower)).rename name).get? option =
      ((layered lower).rename name).get? option := by
  obtain ⟨fresh, hkeys, hfresh⟩ := keys_update (layered lower) layer
  rw [get?_rename (nodup_keys_layered _), get?_rename (nodup_keys_layered _)]
  change (lastSpelling? name option (keys (update (layered lower) layer))).bind
    (update (layered lower) layer).get? = _
  have hnone : lastSpelling? name option fresh = none := by
    rw [lastSpelling?_eq_none_iff]
    intro key hkey hname
    obtain ⟨hmem, hnew⟩ := (hfresh key).1 hkey
    exact h (.inl ⟨key, hmem, hname, hnew⟩)
  rw [hkeys, lastSpelling?_append, hnone, Option.none_or]
  cases hlast : lastSpelling? name option (keys (layered lower)) with
  | none => rfl
  | some key =>
      have hother : lastValue? layer key = none := by
        rw [← Option.not_isSome_iff_eq_none, lastValue?_isSome_iff]
        intro hkey
        exact h (.inr ⟨key, hkey, hlast⟩)
      change (update (layered lower) layer).get? key = _
      rw [get?_update, hother, Option.none_or]
      rfl

theorem chosen_prevails (layers : List (Dictionary β)) :
    Chosen (Prevails name option) (Gives name option) layers
      (((layered layers).rename name).get? option) := by
  induction layers with
  | nil => exact .nothing
  | cons layer lower ih =>
      by_cases h : Prevails name option layer lower
      · obtain ⟨v, hv, hgives⟩ := h.get?_rename
        rw [hv]
        exact .taken h hgives
      · rw [get?_rename_of_not_prevails h]
        exact .passed h ih

theorem Chosen.congr {counts counts' : Dictionary β → List (Dictionary β) → Prop}
    {gives : Dictionary β → β → Prop} {layers : List (Dictionary β)} {found : Option β}
    (h : Chosen counts gives layers found)
    (hcounts : ∀ layer lower, (layer :: lower) <:+ layers →
      (counts layer lower ↔ counts' layer lower)) : Chosen counts' gives layers found := by
  induction h with
  | nothing => exact .nothing
  | taken h hv => exact .taken ((hcounts _ _ (List.suffix_refl _)).1 h) hv
  | @passed layer lower found h _ ih =>
      refine .passed (fun h' => h ((hcounts _ _ (List.suffix_refl _)).2 h')) (ih ?_)
      intro layer' lower' hsuffix
      exact hcounts layer' lower' (hsuffix.trans (List.suffix_cons layer lower))

/-- Where all layers below the first have at most one key for the name, the first layer that has
some gives the value. -/
theorem chosen_spells {layer : Dictionary β} {lower : List (Dictionary β)}
    (hone : ∀ k ∈ keys (layered lower), ∀ l ∈ keys (layered lower),
      name k = option → name l = option → k = l) :
    Chosen (fun layer _ => Spells name option layer) (Gives name option) (layer :: lower)
      (((layered (layer :: lower)).rename name).get? option) := by
  refine (chosen_prevails (layer :: lower)).congr fun layer' lower' hsuffix => ?_
  have hlower : ∀ key ∈ keys (layered lower'), key ∈ keys (layered lower) := by
    intro key hkey
    rw [mem_keys_layered] at hkey ⊢
    obtain ⟨other, hother, hkey⟩ := hkey
    have hshorter : lower' <:+ lower := by
      rcases List.suffix_cons_iff.1 hsuffix with heq | hsuffix
      · exact (List.cons.inj heq).2 ▸ List.suffix_refl _
      · exact (List.suffix_cons layer' lower').trans hsuffix
    exact ⟨other, hshorter.subset hother, hkey⟩
  refine ⟨Prevails.spells, fun h => h.prevails ?_⟩
  intro k hk l hl
  exact hone k (hlower k hk) l (hlower l hl)

theorem get?_rename_layered_eq_none_iff {layers : List (Dictionary β)} :
    ((layered layers).rename name).get? option = none ↔
      ∀ layer ∈ layers, ¬Spells name option layer := by
  rw [get?_rename (nodup_keys_layered _), Option.bind_eq_none_iff]
  have hfound : ∀ key ∈ keys (layered layers), (layered layers).get? key ≠ none := by
    intro key hkey
    obtain ⟨p, hp, rfl⟩ := List.mem_map.1 hkey
    rw [get?_of_mem (nodup_keys_layered _) hp]
    exact Option.some_ne_none _
  constructor
  · rintro h layer hlayer ⟨key, hkey, hname⟩
    have hmem : key ∈ keys (layered layers) := mem_keys_layered.2 ⟨layer, hlayer, hkey⟩
    cases hlast : lastSpelling? name option (keys (layered layers)) with
    | none => exact lastSpelling?_eq_none_iff.1 hlast key hmem hname
    | some last => exact hfound last (mem_of_lastSpelling? hlast).1 (h last hlast)
  · intro h key hlast
    obtain ⟨hmem, hname⟩ := mem_of_lastSpelling? hlast
    obtain ⟨layer, hlayer, hkey⟩ := mem_keys_layered.1 hmem
    exact absurd ⟨key, hkey, hname⟩ (h layer hlayer)

end Layers

end NonlinearProgram.Dictionary
