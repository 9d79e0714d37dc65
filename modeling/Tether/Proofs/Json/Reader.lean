import Tether.Proofs.Json.Grammar

/-!
The reader of JSON against the grammar. What any of its five functions passes over spells what it
read (`Sound`, by induction on the fuel), and every spelling is read with three steps of fuel for
each of its characters (`IsRead`, by induction on the spelling). So the reader accepts the texts of
JSON and no other: `parse_eq_ok_iff`.
-/

namespace Tether.Json

/-! ## What is read is spelled -/

/-- What stands behind an opening bracket, or behind an item or member (`first` tells which): the
closing bracket, or a phrase and then the closing bracket. -/
def Closes (closer : Char) (first : Bool) (empty : Prop) (p : Phrase) (cs rest : List Char) :
    Prop :=
  (empty ∧ ∃ a, Space a ∧ cs = a ++ closer :: rest) ∨
    ∃ a ds, Space a ∧ Spells p ds ∧
      cs = a ++ ((if first then [] else [',']) ++ (ds ++ closer :: rest))

/-- With so much fuel, what any reader passes over spells what it read. -/
structure Sound (fuel : Nat) : Prop where
  value {cs v rest} : readValue fuel cs = .ok (v, rest) →
    ∃ a ds, Space a ∧ Spells (.value v) ds ∧ cs = a ++ (ds ++ rest)
  items {first cs vs rest} : readItems fuel first cs = .ok (vs, rest) →
    Closes ']' first (vs = []) (.items vs) cs rest
  item {cs vs rest} : readItem fuel cs = .ok (vs, rest) →
    ∃ ds, Spells (.items vs) ds ∧ cs = ds ++ ']' :: rest
  members {first cs ms rest} : readMembers fuel first cs = .ok (ms, rest) →
    Closes '\x7d' first (ms = []) (.members ms) cs rest
  member {cs ms rest} : readMember fuel cs = .ok (ms, rest) →
    ∃ ds, Spells (.members ms) ds ∧ cs = ds ++ '\x7d' :: rest

theorem sound_zero : Sound 0 := ⟨nofun, nofun, nofun, nofun, nofun⟩

theorem Space.append {a b : List Char} (ha : Space a) (hb : Space b) : Space (a ++ b) :=
  List.forall_mem_append.2 ⟨ha, hb⟩

/-- Space in front belongs to the first item. -/
theorem Spells.items_space {vs : List Value} {ds a : List Char} (h : Spells (.items vs) ds)
    (ha : Space a) : Spells (.items vs) (a ++ ds) := by
  cases h with
  | item hfront hv hb =>
    rw [List.append_assoc, ← List.append_assoc a, ← List.append_assoc]
    exact .item (ha.append hfront) hv hb
  | items hfront hv hb hrest =>
    rw [List.append_assoc, List.append_assoc, ← List.append_assoc a, ← List.append_assoc,
      ← List.append_assoc]
    exact .items (ha.append hfront) hv hb hrest

theorem Spells.members_space {ms : List (Option String × Value)} {ds a : List Char}
    (h : Spells (.members ms) ds) (ha : Space a) : Spells (.members ms) (a ++ ds) := by
  cases h with
  | member hfront hn hb hc hv hd =>
    rw [List.append_assoc, List.append_assoc, ← List.append_assoc a, ← List.append_assoc,
      ← List.append_assoc]
    exact .member (ha.append hfront) hn hb hc hv hd
  | members hfront hn hb hc hv hd hrest =>
    rw [List.append_assoc, List.append_assoc, List.append_assoc, ← List.append_assoc a,
      ← List.append_assoc, ← List.append_assoc, ← List.append_assoc]
    exact .members (ha.append hfront) hn hb hc hv hd hrest

/-- What a series is read from: the closing bracket, or one of the series and what stands behind it,
behind a comma unless it is the first one. -/
theorem closes_of_readSeries {α : Type} {closer : Char} {phrase : List α → Phrase}
    {one : List Char → Except Fault (List α × List Char)} {first : Bool} {cs rest : List Char}
    {xs : List α}
    (hone : ∀ {cs xs rest}, one cs = .ok (xs, rest) →
      ∃ ds, Spells (phrase xs) ds ∧ cs = ds ++ closer :: rest)
    (hspace : ∀ {xs ds a}, Spells (phrase xs) ds → Space a → Spells (phrase xs) (a ++ ds))
    (hr : readSeries closer one first cs = .ok (xs, rest)) :
    Closes closer first (xs = []) (phrase xs) cs rest := by
  obtain ⟨a, ha, hcs⟩ := exists_space cs
  unfold readSeries at hr
  split at hr
  · cases hr
  rename_i c tail heq
  rw [heq] at hcs
  split at hr
  · rename_i hclose
    cases hr
    exact .inl ⟨rfl, a, ha, by rw [hcs, hclose]⟩
  split at hr
  · rename_i hfirst
    obtain ⟨ds, hds, he⟩ := hone hr
    exact .inr ⟨a, ds, ha, hds, by rw [if_pos hfirst, List.nil_append, ← he, hcs]⟩
  split at hr
  · rename_i hfirst hcomma
    split at hr
    · cases hr
    · -- the space behind the comma belongs to what follows
      obtain ⟨b, hb, htail⟩ := exists_space tail
      obtain ⟨ds, hds, he⟩ := hone hr
      refine .inr ⟨a, b ++ ds, ha, hspace hds hb, ?_⟩
      rw [if_neg hfirst, List.append_assoc, ← he, List.singleton_append, ← htail, ← hcomma, hcs]
  · cases hr

theorem readWord_eq_ok {word : String} {value v : Value} {cs rest : List Char}
    (h : readWord word value cs = .ok (v, rest)) : v = value ∧ cs = word.toList ++ rest := by
  unfold readWord at h
  dsimp only at h
  split at h
  · rename_i hpre
    cases h
    obtain ⟨rest, rfl⟩ := List.isPrefixOf_iff_prefix.1 hpre
    exact ⟨rfl, by rw [List.drop_left]⟩
  · split at h
    · cases h
    · cases h

section

variable {fuel : Nat} (h : Sound fuel)

include h

theorem Sound.value_succ {cs rest : List Char} {v : Value}
    (hr : readValue (fuel + 1) cs = .ok (v, rest)) :
    ∃ a ds, Space a ∧ Spells (.value v) ds ∧ cs = a ++ (ds ++ rest) := by
  obtain ⟨a, ha, hcs⟩ := exists_space cs
  suffices hs : ∃ ds, Spells (.value v) ds ∧ skipSpace cs = ds ++ rest by
    obtain ⟨ds, hds, he⟩ := hs
    exact ⟨a, ds, ha, hds, by rw [← he]; exact hcs⟩
  clear hcs
  unfold readValue at hr
  split at hr
  · cases hr
  · rename_i tail heq
    obtain ⟨⟨text, rest⟩, hstring, hr⟩ := bind_eq_ok_iff.1 hr
    cases hr
    obtain ⟨body, hbody, rfl⟩ := readString_eq_ok_iff.1 hstring
    exact ⟨_, .string hbody, heq⟩
  · rename_i tail heq
    obtain ⟨⟨vs, rest⟩, hitems, hr⟩ := bind_eq_ok_iff.1 hr
    cases hr
    obtain ⟨rfl, b, hb, rfl⟩ | ⟨b, ds, hb, hds, rfl⟩ := h.items hitems
    · exact ⟨_, .noItems hb, by rw [heq]; simp⟩
    · exact ⟨_, .array (hds.items_space hb), by rw [heq]; simp⟩
  · rename_i tail heq
    obtain ⟨⟨ms, rest⟩, hmembers, hr⟩ := bind_eq_ok_iff.1 hr
    cases hr
    obtain ⟨rfl, b, hb, rfl⟩ | ⟨b, ds, hb, hds, rfl⟩ := h.members hmembers
    · exact ⟨_, .noMembers hb, by rw [heq]; simp⟩
    · exact ⟨_, .object (hds.members_space hb), by rw [heq]; simp⟩
  · rename_i tail heq
    obtain ⟨rfl, rfl⟩ := readWord_eq_ok hr
    exact ⟨_, .null, heq⟩
  · rename_i tail heq
    obtain ⟨rfl, rfl⟩ := readWord_eq_ok hr
    exact ⟨_, .yes, heq⟩
  · rename_i tail heq
    obtain ⟨rfl, rfl⟩ := readWord_eq_ok hr
    exact ⟨_, .no, heq⟩
  · rename_i c tail _ _ _ _ _ _ heq
    split at hr
    · obtain ⟨rest, hnumber, hr⟩ := bind_eq_ok_iff.1 hr
      cases hr
      obtain ⟨ds, hds, he⟩ := skipNumber_eq_ok hnumber
      exact ⟨ds, .number hds, heq.trans he⟩
    · cases hr

theorem Sound.items_succ {first : Bool} {cs rest : List Char} {vs : List Value}
    (hr : readItems (fuel + 1) first cs = .ok (vs, rest)) :
    Closes ']' first (vs = []) (.items vs) cs rest :=
  closes_of_readSeries (fun hone => h.item hone) (fun hds ha => hds.items_space ha) hr

theorem Sound.item_succ {cs rest : List Char} {vs : List Value}
    (hr : readItem (fuel + 1) cs = .ok (vs, rest)) :
    ∃ ds, Spells (.items vs) ds ∧ cs = ds ++ ']' :: rest := by
  unfold readItem at hr
  obtain ⟨⟨v, tail⟩, hvalue, hr⟩ := bind_eq_ok_iff.1 hr
  obtain ⟨more, hmore, rfl⟩ := cons_eq_ok_iff.1 hr
  obtain ⟨a, ds, ha, hds, rfl⟩ := h.value hvalue
  obtain ⟨rfl, b, hb, rfl⟩ | ⟨b, es, hb, hes, rfl⟩ := h.items hmore
  · exact ⟨_, .item ha hds hb, by simp⟩
  · exact ⟨_, .items ha hds hb hes, by simp⟩

theorem Sound.members_succ {first : Bool} {cs rest : List Char}
    {ms : List (Option String × Value)}
    (hr : readMembers (fuel + 1) first cs = .ok (ms, rest)) :
    Closes '\x7d' first (ms = []) (.members ms) cs rest :=
  closes_of_readSeries (fun hone => h.member hone) (fun hds ha => hds.members_space ha) hr

theorem Sound.member_succ {cs rest : List Char} {ms : List (Option String × Value)}
    (hr : readMember (fuel + 1) cs = .ok (ms, rest)) :
    ∃ ds, Spells (.members ms) ds ∧ cs = ds ++ '\x7d' :: rest := by
  unfold readMember at hr
  split at hr
  · obtain ⟨⟨name, behind⟩, hname, hcolon⟩ := bind_eq_ok_iff.1 hr
    obtain ⟨body, hbody, rfl⟩ := readString_eq_ok_iff.1 hname
    obtain ⟨b, hb, hbehind⟩ := exists_space behind
    dsimp only at hcolon
    split at hcolon
    · rename_i tail heq
      obtain ⟨⟨v, after⟩, hvalue, hafter⟩ := bind_eq_ok_iff.1 hcolon
      obtain ⟨more, hmore, rfl⟩ := cons_eq_ok_iff.1 hafter
      obtain ⟨c, ds, hc, hds, rfl⟩ := h.value hvalue
      rw [heq] at hbehind
      obtain ⟨rfl, d, hd, rfl⟩ | ⟨d, es, hd, hes, rfl⟩ := h.members hmore
      · exact ⟨_, .member space_nil hbody hb hc hds hd, by rw [hbehind]; simp⟩
      · exact ⟨_, .members space_nil hbody hb hc hds hd hes, by rw [hbehind]; simp⟩
    · cases hcolon
    · cases hcolon
  · cases hr
  · cases hr

end

theorem sound (fuel : Nat) : Sound fuel := by
  induction fuel with
  | zero => exact sound_zero
  | succ fuel ih =>
    exact ⟨ih.value_succ, ih.items_succ, ih.item_succ, ih.members_succ, ih.member_succ⟩

/-! ## What is spelled is read -/

/-- What stands here begins a value. -/
def Begins (cs : List Char) : Prop :=
  ∃ c tail, cs = c :: tail ∧ isSpace c = false ∧ c ≠ ']' ∧ c ≠ '\x7d'

theorem Begins.append {cs : List Char} (h : Begins cs) (rest : List Char) :
    Begins (cs ++ rest) := by
  obtain ⟨c, tail, rfl, hc⟩ := h
  exact ⟨c, tail ++ rest, rfl, hc⟩

theorem Begins.skipSpace {cs : List Char} (h : Begins cs) : Json.skipSpace cs = cs := by
  obtain ⟨c, tail, rfl, hc, -⟩ := h
  exact skipSpace_cons hc tail

/-- A digit or sign is no token of its own. -/
theorem begins_number {c : Char} (h : c = '-' ∨ c.isDigit = true) (tail : List Char) :
    Begins (c :: tail) := by
  have hne : ∀ d : Char, d.isDigit = false → d ≠ '-' → c ≠ d := by
    rintro d hd hminus rfl
    rcases h with rfl | h
    · exact hminus rfl
    · rw [hd] at h
      cases h
  refine ⟨c, tail, rfl, ?_, hne ']' rfl (by decide), hne '\x7d' rfl (by decide)⟩
  have := hne ' ' rfl (by decide)
  have := hne '\n' rfl (by decide)
  have := hne '\t' rfl (by decide)
  have := hne '\r' rfl (by decide)
  simp [isSpace, *]

theorem Numeral.head {cs : List Char} (h : Numeral cs) :
    ∃ c tail, cs = c :: tail ∧ (c = '-' ∨ c.isDigit = true) := by
  cases h with
  | positive hw _ _ =>
    cases hw with
    | zero => exact ⟨'0', _, rfl, .inr rfl⟩
    | digits _ hd => exact ⟨_, _, rfl, .inr (hd.2 _ List.mem_cons_self)⟩
  | negative _ _ _ => exact ⟨'-', _, rfl, .inl rfl⟩

theorem Spells.begins {v : Value} {cs : List Char} (h : Spells (.value v) cs) : Begins cs := by
  cases h with
  | null | yes | no | noItems | array | noMembers | object =>
    exact ⟨_, _, rfl, by decide, by decide, by decide⟩
  | number hn =>
    obtain ⟨c, tail, rfl, hc⟩ := hn.head
    exact begins_number hc tail
  | string hq =>
    cases hq
    exact ⟨_, _, rfl, by decide, by decide, by decide⟩

theorem Spells.length_pos {v : Value} {cs : List Char} (h : Spells (.value v) cs) :
    0 < cs.length := by
  obtain ⟨c, tail, rfl, -⟩ := h.begins
  exact Nat.succ_pos _

theorem Quoted.begins {text : Option String} {cs : List Char} (h : Quoted text cs) :
    Begins cs := (Spells.string h).begins

theorem ends_cons {c : Char} (h : c = ',' ∨ c = ']' ∨ c = '\x7d') (rest : List Char) :
    Ends (c :: rest) := by
  intro d hd
  cases hd
  rcases h with rfl | rfl | rfl <;> decide

theorem Space.ends_append {a rest : List Char} (ha : Space a) (hr : Ends rest) :
    Ends (a ++ rest) := by
  cases a with
  | nil => exact hr
  | cons c a =>
    intro d hd
    cases hd
    have hc := ha c List.mem_cons_self
    simp only [isSpace, Bool.or_eq_true, decide_eq_true_eq] at hc
    rcases hc with ((rfl | rfl) | rfl) | rfl <;> decide

theorem ne_closer {c closer : Char} (h : c ≠ ']' ∧ c ≠ '\x7d')
    (hcloser : closer = ']' ∨ closer = '\x7d') : c ≠ closer := by
  rcases hcloser with rfl | rfl
  · exact h.1
  · exact h.2

/-- With fuel enough, this spelling is read, whatever follows it. -/
def IsRead : Phrase → List Char → Prop
  | .value v, ds => ∀ fuel a rest, 3 * ds.length ≤ fuel → Space a → Ends rest →
      readValue fuel (a ++ (ds ++ rest)) = .ok (v, rest)
  | .items vs, ds => ∀ fuel rest, 3 * ds.length < fuel →
      ∃ cs, skipSpace (ds ++ ']' :: rest) = cs ∧ Begins cs ∧ readItem fuel cs = .ok (vs, rest)
  | .members ms, ds => ∀ fuel rest, 3 * ds.length < fuel →
      ∃ cs, skipSpace (ds ++ '\x7d' :: rest) = cs ∧ Begins cs ∧ readMember fuel cs = .ok (ms, rest)

section

variable {α : Type} {closer : Char} (one : List Char → Except Fault (List α × List Char))

theorem readSeries_close (hcloser : isSpace closer = false) (first : Bool) {a : List Char}
    (ha : Space a) (rest : List Char) :
    readSeries closer one first (a ++ closer :: rest) = .ok ([], rest) := by
  unfold readSeries
  rw [skipSpace_append ha, skipSpace_cons hcloser]
  exact if_pos rfl

theorem readSeries_first {cs : List Char} (h : Begins (skipSpace cs))
    (hcloser : closer = ']' ∨ closer = '\x7d') :
    readSeries closer one true cs = one (skipSpace cs) := by
  obtain ⟨c, tail, he, -, hne⟩ := h
  unfold readSeries
  rw [he]
  exact (if_neg (ne_closer hne hcloser)).trans (if_pos rfl)

theorem readSeries_next {a cs : List Char} (ha : Space a) (h : Begins (skipSpace cs))
    (hcloser : closer = ']' ∨ closer = '\x7d') :
    readSeries closer one false (a ++ ',' :: cs) = one (skipSpace cs) := by
  obtain ⟨c, tail, he, -, hne⟩ := h
  have hcomma : ',' ≠ closer := by
    rcases hcloser with rfl | rfl <;> decide
  have hhead : (skipSpace cs).head? ≠ some closer := by
    rw [he]
    exact fun heq => ne_closer hne hcloser (Option.some.inj heq)
  unfold readSeries
  rw [skipSpace_append ha, skipSpace_cons (by decide)]
  dsimp only
  rw [if_neg hcomma, if_neg Bool.false_ne_true, if_pos rfl, if_neg hhead]

end

theorem readMember_append {name : Option String} {ns b cs after rest : List Char} {v : Value}
    {more : List (Option String × Value)} {fuel : Nat} (hn : Quoted name ns) (hb : Space b)
    (hv : readValue fuel cs = .ok (v, after))
    (hmore : readMembers fuel false after = .ok (more, rest)) :
    readMember (fuel + 1) (ns ++ (b ++ ':' :: cs)) = .ok ((name, v) :: more, rest) := by
  obtain ⟨body, rfl⟩ : ∃ body, ns = '"' :: body := by
    cases hn
    exact ⟨_, rfl⟩
  have hskip : skipSpace (b ++ ':' :: cs) = ':' :: cs := by
    rw [skipSpace_append hb, skipSpace_cons (by decide)]
  unfold readMember
  refine bind_eq_ok_iff.2 ⟨(name, b ++ ':' :: cs), readString_eq_ok_iff.2 ⟨body, hn, rfl⟩, ?_⟩
  dsimp only
  rw [hskip]
  exact bind_eq_ok_iff.2 ⟨(v, after), hv, cons_eq_ok_iff.2 ⟨more, hmore, rfl⟩⟩

theorem readItem_append {cs after rest : List Char} {v : Value} {more : List Value} {fuel : Nat}
    (hv : readValue fuel cs = .ok (v, after))
    (hmore : readItems fuel false after = .ok (more, rest)) :
    readItem (fuel + 1) cs = .ok (v :: more, rest) := by
  unfold readItem
  exact bind_eq_ok_iff.2 ⟨(v, after), hv, cons_eq_ok_iff.2 ⟨more, hmore, rfl⟩⟩

theorem readWord_append (word : String) (value : Value) (rest : List Char) :
    readWord word value (word.toList ++ rest) = .ok (value, rest) := by
  unfold readWord
  dsimp only
  rw [if_pos (List.isPrefixOf_iff_prefix.2 (List.prefix_append _ _)), List.drop_left]

/-- Space in front of a value is passed over. -/
theorem readValue_space {a cs : List Char} (ha : Space a) (fuel : Nat) :
    readValue fuel (a ++ cs) = readValue fuel cs := by
  cases fuel with
  | zero => rfl
  | succ fuel =>
    unfold readValue
    rw [skipSpace_append ha]

/-- A value is read if it is once the space is passed over. -/
theorem isRead_value {v : Value} {ds : List Char} (hds : Spells (.value v) ds)
    (h : ∀ fuel rest, 3 * ds.length ≤ fuel + 1 → Ends rest →
      readValue (fuel + 1) (ds ++ rest) = .ok (v, rest)) : IsRead (.value v) ds := by
  intro fuel a rest hf ha hr
  obtain ⟨c, tail, rfl, -⟩ := hds.begins
  obtain ⟨fuel, rfl⟩ := Nat.exists_eq_succ_of_ne_zero (Nat.ne_zero_of_lt (Nat.lt_of_lt_of_le
    (show 0 < 3 * (c :: tail).length by simp) hf))
  rw [readValue_space ha]
  exact h fuel rest hf hr

theorem readValue_number {ds rest : List Char} (h : Numeral ds) (fuel : Nat) (hr : Ends rest) :
    readValue (fuel + 1) (ds ++ rest) = .ok (.number, rest) := by
  obtain ⟨c, tail, rfl, hc⟩ := h.head
  have hread : (skipNumber (c :: tail ++ rest) >>= fun rest => .ok (Value.number, rest)) =
      .ok (.number, rest) := bind_eq_ok_iff.2 ⟨rest, skipNumber_append h hr, rfl⟩
  have hne : ∀ d : Char, d.isDigit = false → d ≠ '-' → c ≠ d := by
    rintro d hd hminus rfl
    rcases hc with rfl | hc
    · exact hminus rfl
    · rw [hd] at hc
      cases hc
  unfold readValue
  rw [((begins_number hc tail).append rest).skipSpace]
  split
  · rename_i heq
    cases heq
  · rename_i heq
    exact absurd (List.cons.inj heq).1 (hne '"' rfl (by decide))
  · rename_i heq
    exact absurd (List.cons.inj heq).1 (hne '[' rfl (by decide))
  · rename_i heq
    exact absurd (List.cons.inj heq).1 (hne '\x7b' rfl (by decide))
  · rename_i heq
    exact absurd (List.cons.inj heq).1 (hne 'n' rfl (by decide))
  · rename_i heq
    exact absurd (List.cons.inj heq).1 (hne 't' rfl (by decide))
  · rename_i heq
    exact absurd (List.cons.inj heq).1 (hne 'f' rfl (by decide))
  · rename_i heq
    obtain ⟨rfl, rfl⟩ := List.cons.inj heq
    exact (if_pos hc).trans hread

/-- The items of an array are read, with what closes it. -/
theorem IsRead.closeItems {vs : List Value} {ds : List Char} (h : IsRead (.items vs) ds)
    {fuel : Nat} (hf : 3 * ds.length < fuel) (rest : List Char) :
    readItems (fuel + 1) true (ds ++ ']' :: rest) = .ok (vs, rest) := by
  obtain ⟨cs, rfl, hbegins, hr⟩ := h fuel rest hf
  rw [readItems, readSeries_first _ hbegins (.inl rfl), hr]

theorem IsRead.closeMembers {ms : List (Option String × Value)} {ds : List Char}
    (h : IsRead (.members ms) ds) {fuel : Nat} (hf : 3 * ds.length < fuel) (rest : List Char) :
    readMembers (fuel + 1) true (ds ++ '\x7d' :: rest) = .ok (ms, rest) := by
  obtain ⟨cs, rfl, hbegins, hr⟩ := h fuel rest hf
  rw [readMembers, readSeries_first _ hbegins (.inr rfl), hr]

/-- An array is read if what stands between its brackets is. -/
theorem isRead_array {vs : List Value} {ds : List Char}
    (hds : Spells (.value (.array vs)) ('[' :: (ds ++ [']'])))
    (h : ∀ fuel rest, 3 * ds.length < fuel →
      readItems (fuel + 1) true (ds ++ ']' :: rest) = .ok (vs, rest)) :
    IsRead (.value (.array vs)) ('[' :: (ds ++ [']'])) := by
  refine isRead_value hds fun fuel rest hf _ => ?_
  rw [List.cons_append, List.append_assoc, List.singleton_append]
  rw [List.length_cons, List.length_append, List.length_singleton] at hf
  obtain ⟨fuel, rfl⟩ : ∃ n, fuel = n + 1 := ⟨fuel - 1, by omega⟩
  exact bind_eq_ok_iff.2 ⟨_, h fuel rest (by omega), rfl⟩

theorem isRead_object {ms : List (Option String × Value)} {ds : List Char}
    (hds : Spells (.value (.object ms)) ('\x7b' :: (ds ++ ['\x7d'])))
    (h : ∀ fuel rest, 3 * ds.length < fuel →
      readMembers (fuel + 1) true (ds ++ '\x7d' :: rest) = .ok (ms, rest)) :
    IsRead (.value (.object ms)) ('\x7b' :: (ds ++ ['\x7d'])) := by
  refine isRead_value hds fun fuel rest hf _ => ?_
  rw [List.cons_append, List.append_assoc, List.singleton_append]
  rw [List.length_cons, List.length_append, List.length_singleton] at hf
  obtain ⟨fuel, rfl⟩ : ∃ n, fuel = n + 1 := ⟨fuel - 1, by omega⟩
  exact bind_eq_ok_iff.2 ⟨_, h fuel rest (by omega), rfl⟩

theorem Spells.isRead {p : Phrase} {ds : List Char} (h : Spells p ds) : IsRead p ds := by
  induction h with
  | null => exact isRead_value .null fun fuel rest _ _ => readWord_append "ull" .null rest
  | yes => exact isRead_value .yes fun fuel rest _ _ => readWord_append "rue" (.bool true) rest
  | no => exact isRead_value .no fun fuel rest _ _ => readWord_append "alse" (.bool false) rest
  | number hn => exact isRead_value (.number hn) fun fuel rest _ hr => readValue_number hn fuel hr
  | string hq =>
    refine isRead_value (.string hq) fun fuel rest _ _ => ?_
    cases hq with
    | units hunits =>
      exact bind_eq_ok_iff.2 ⟨_, readString_eq_ok_iff.2 ⟨_, .units hunits, rfl⟩, rfl⟩
  | noItems ha =>
    apply isRead_array (.noItems ha)
    intro fuel rest _
    exact readSeries_close _ (by decide) true ha rest
  | array hds ih => exact isRead_array (.array hds) fun fuel rest hf => ih.closeItems hf rest
  | noMembers ha =>
    exact isRead_object (.noMembers ha) fun fuel rest _ =>
      readSeries_close _ (by decide) true ha rest
  | object hds ih => exact isRead_object (.object hds) fun fuel rest hf => ih.closeMembers hf rest
  | @item v a cs b ha hv hb ih =>
    intro fuel rest hf
    rw [List.length_append, List.length_append] at hf
    rw [List.append_assoc, List.append_assoc, skipSpace_append ha,
      (hv.begins.append (b ++ ']' :: rest)).skipSpace]
    have hpos := hv.length_pos
    obtain ⟨fuel, rfl⟩ : ∃ n, fuel = n + 1 + 1 := ⟨fuel - 2, by omega⟩
    have hends := hb.ends_append (ends_cons (.inr (.inl rfl)) rest)
    exact ⟨_, rfl, hv.begins.append _, readItem_append
      (ih (fuel + 1) [] _ (by omega) space_nil hends) (readSeries_close _ (by decide) false hb rest)⟩
  | @items v vs a cs b ds ha hv hb _ ih ihrest =>
    intro fuel rest hf
    rw [List.length_append, List.length_append, List.length_append, List.length_cons] at hf
    rw [List.append_assoc, List.append_assoc, List.append_assoc, skipSpace_append ha,
      (hv.begins.append (b ++ (',' :: ds ++ ']' :: rest))).skipSpace, List.cons_append]
    have hpos := hv.length_pos
    obtain ⟨fuel, rfl⟩ : ∃ n, fuel = n + 1 + 1 := ⟨fuel - 2, by omega⟩
    obtain ⟨_, rfl, hbegins, hmore⟩ := ihrest fuel rest (by omega)
    rw [← readSeries_next (readItem fuel) hb hbegins (.inl rfl)] at hmore
    have hends := hb.ends_append (ends_cons (.inl rfl) (ds ++ ']' :: rest))
    exact ⟨_, rfl, hv.begins.append _, readItem_append
      (ih (fuel + 1) [] _ (by omega) space_nil hends) hmore⟩
  | @member name v a ns b c cs d ha hn hb hc hv hd ih =>
    intro fuel rest hf
    rw [List.length_append, List.length_append, List.length_append, List.length_cons,
      List.length_append, List.length_append] at hf
    rw [List.append_assoc, List.append_assoc, List.append_assoc, skipSpace_append ha,
      (hn.begins.append _).skipSpace, List.cons_append, List.append_assoc, List.append_assoc]
    have hpos := hv.length_pos
    obtain ⟨fuel, rfl⟩ : ∃ n, fuel = n + 1 + 1 := ⟨fuel - 2, by omega⟩
    have hends := hd.ends_append (ends_cons (.inr (.inr rfl)) rest)
    exact ⟨_, rfl, hn.begins.append _, readMember_append hn hb
      (ih (fuel + 1) c _ (by omega) hc hends) (readSeries_close _ (by decide) false hd rest)⟩
  | @members name v ms a ns b c cs d ds ha hn hb hc hv hd _ ih ihrest =>
    intro fuel rest hf
    rw [List.length_append, List.length_append, List.length_append, List.length_append,
      List.length_cons, List.length_append, List.length_append, List.length_cons] at hf
    rw [List.append_assoc, List.append_assoc, List.append_assoc, List.append_assoc,
      skipSpace_append ha, (hn.begins.append _).skipSpace, List.cons_append, List.append_assoc,
      List.append_assoc, List.cons_append]
    have hpos := hv.length_pos
    obtain ⟨fuel, rfl⟩ : ∃ n, fuel = n + 1 + 1 := ⟨fuel - 2, by omega⟩
    obtain ⟨_, rfl, hbegins, hmore⟩ := ihrest fuel rest (by omega)
    rw [← readSeries_next (readMember fuel) hd hbegins (.inr rfl)] at hmore
    have hends := hd.ends_append (ends_cons (.inl rfl) (ds ++ '\x7d' :: rest))
    exact ⟨_, rfl, hn.begins.append _, readMember_append hn hb
      (ih (fuel + 1) c _ (by omega) hc hends) hmore⟩

/-- The reader accepts the texts of JSON and no other, and reads of each the value that it
spells. -/
theorem parse_eq_ok_iff {s : String} {v : Value} : parse s = .ok v ↔ IsText v s.toList := by
  unfold parse
  rw [bind_eq_ok_iff]
  constructor
  · rintro ⟨⟨v', rest⟩, hvalue, h⟩
    dsimp only at h
    split at h
    · rename_i hrest
      cases h
      obtain ⟨a, ds, ha, hds, he⟩ := (sound _).value hvalue
      refine ⟨a, ds, rest, by rw [he, List.append_assoc], ha, hds, ?_⟩
      exact skipSpace_eq_nil_iff.1 (List.isEmpty_iff.1 hrest)
    · cases h
  · rintro ⟨a, ds, b, he, ha, hds, hb⟩
    refine ⟨(v, b), ?_, ?_⟩
    · rw [he, List.append_assoc]
      refine hds.isRead _ a b ?_ ha ?_
      · have hlength : s.length = (a ++ ds ++ b).length := by rw [← he, String.length_toList]
        rw [hlength, List.length_append, List.length_append]
        omega
      · have hends : Ends (b ++ []) := hb.ends_append nofun
        rwa [List.append_nil] at hends
    · exact if_pos (List.isEmpty_iff.2 (skipSpace_eq_nil_iff.2 hb))

end Tether.Json
