import ServiceContract.Proofs.Written

/-!
# Values in order of keys

A map of untyped values is kept in order of keys. `Json.arranged` puts a whole value in that order.
What a value writes does not depend on it, and what is read from a text is what is read from the
value in the text.

* `valuesAt_sorted`: of the values of a key, the last one is kept.
* `WrittenAs.arranged`: a value writes the same document when it is arranged.
* `Draft.readsJson_reader`: drafts without faults are a format of JSON values.
* `ofJson_of_ofJsonText`: a document read from a text is read from the value in the text.
-/

namespace ServiceContract

namespace Json

mutual

/-- A value with the entries of its objects in increasing order of keys, of several values of a
key the last one. -/
def arranged : Json → Json
  | .null => .null
  | .bool b => .bool b
  | .number n => .number n
  | .text s => .text s
  | .array items => .array (arrangedItems items)
  | .object entries => .object (sorted (arrangedEntries entries))

/-- The items of an array, each arranged. -/
def arrangedItems : List Json → List Json
  | [] => []
  | v :: vs => arranged v :: arrangedItems vs

/-- The entries of an object, each arranged. -/
def arrangedEntries : List (String × Json) → List (String × Json)
  | [] => []
  | (k, v) :: rest => (k, arranged v) :: arrangedEntries rest

end

/-- A map of untyped values, arranged. -/
def arrange (entries : List (String × Json)) : List (String × Json) :=
  sorted (arrangedEntries entries)

theorem arrangedItems_eq (items : List Json) : arrangedItems items = items.map arranged := by
  induction items with
  | nil => rfl
  | cons v items ih => rw [arrangedItems, ih, List.map_cons]

theorem arrangedEntries_eq (entries : List (String × Json)) :
    arrangedEntries entries = entries.map fun e => (e.1, e.2.arranged) := by
  induction entries with
  | nil => rfl
  | cons e entries ih => rw [arrangedEntries, ih, List.map_cons]

/-! ## Sorted entries -/

/-- Entries in increasing order of keys. -/
def InKeyOrder (entries : List (String × Json)) : Prop :=
  entries.Pairwise fun e f => e.1 < f.1

variable {key : String} {v : Json} {entries : List (String × Json)}

theorem mem_insert {e : String × Json} (h : e ∈ insert key v entries) :
    e.1 = key ∨ e ∈ entries := by
  induction entries with
  | nil =>
    rw [insert, List.mem_singleton] at h
    exact .inl (h ▸ rfl)
  | cons f entries ih =>
    rw [insert] at h
    split_ifs at h with hlt hgt
    · rcases List.mem_cons.1 h with rfl | h
      · exact .inl rfl
      · exact .inr h
    · rcases List.mem_cons.1 h with rfl | h
      · exact .inr List.mem_cons_self
      · exact (ih h).imp_right (List.mem_cons_of_mem f)
    · rcases List.mem_cons.1 h with rfl | h
      · exact .inl rfl
      · exact .inr (List.mem_cons_of_mem f h)

theorem InKeyOrder.insert (h : InKeyOrder entries) : InKeyOrder (insert key v entries) := by
  induction entries with
  | nil => exact List.pairwise_singleton _ _
  | cons f entries ih =>
    obtain ⟨hfirst, hrest⟩ := List.pairwise_cons.1 h
    rw [Json.insert]
    split_ifs with hlt hgt
    · refine List.pairwise_cons.2 ⟨fun e he => ?_, h⟩
      rcases List.mem_cons.1 he with rfl | he
      · exact hlt
      · exact String.lt_trans hlt (hfirst e he)
    · refine List.pairwise_cons.2 ⟨fun e he => ?_, ih hrest⟩
      rcases mem_insert he with heq | he
      · rw [heq]
        exact hgt
      · exact hfirst e he
    · -- neither key is less, so they are the same
      have heq : key = f.1 := String.le_antisymm (String.not_lt.1 hgt) (String.not_lt.1 hlt)
      exact List.pairwise_cons.2 ⟨fun e he => heq ▸ hfirst e he, hrest⟩

/-- No value has a key less than all there are. -/
theorem valuesAt_eq_nil {ν : Type} {k : String} {entries : List (String × ν)}
    (h : ∀ e ∈ entries, k < e.1) : valuesAt k entries = [] := by
  unfold valuesAt
  rw [List.map_eq_nil_iff, List.filter_eq_nil_iff]
  intro e he heq
  exact String.lt_irrefl k ((eq_of_beq heq) ▸ h e he)

theorem valuesAt_insert_self (h : InKeyOrder entries) :
    valuesAt key (insert key v entries) = [v] := by
  induction entries with
  | nil => exact valuesAt_cons_self v
  | cons f entries ih =>
    obtain ⟨hfirst, hrest⟩ := List.pairwise_cons.1 h
    rw [insert]
    split_ifs with hlt hgt
    · have hnone : valuesAt key (f :: entries) = [] :=
        valuesAt_eq_nil (List.forall_mem_cons.2
          ⟨hlt, fun e he => String.lt_trans hlt (hfirst e he)⟩)
      rw [valuesAt_cons_self, hnone]
    · have hne : f.1 ≠ key := fun heq => String.lt_irrefl key (heq ▸ hgt)
      rw [valuesAt_cons_of_ne hne, ih hrest]
    · have heq : key = f.1 := String.le_antisymm (String.not_lt.1 hgt) (String.not_lt.1 hlt)
      have hnone : valuesAt key entries = [] := valuesAt_eq_nil fun e he => heq ▸ hfirst e he
      rw [valuesAt_cons_self, hnone]

theorem valuesAt_insert_of_ne {k : String} (hne : key ≠ k) :
    valuesAt k (insert key v entries) = valuesAt k entries := by
  induction entries with
  | nil => exact valuesAt_cons_of_ne hne v
  | cons f entries ih =>
    rw [insert]
    split_ifs with hlt hgt
    · exact valuesAt_cons_of_ne hne v
    · by_cases hf : f.1 = k
      · subst hf
        rw [valuesAt_cons_self, valuesAt_cons_self, ih]
      · rw [valuesAt_cons_of_ne hf, valuesAt_cons_of_ne hf, ih]
    · have heq : key = f.1 := String.le_antisymm (String.not_lt.1 hgt) (String.not_lt.1 hlt)
      rw [valuesAt_cons_of_ne hne, valuesAt_cons_of_ne (heq ▸ hne)]

theorem sorted_concat : sorted (entries ++ [(key, v)]) = insert key v (sorted entries) := by
  unfold sorted
  rw [List.foldl_append]
  rfl

theorem inKeyOrder_sorted (entries : List (String × Json)) : InKeyOrder (sorted entries) := by
  induction entries using List.reverseRecOn with
  | nil => exact List.Pairwise.nil
  | append_singleton entries e ih =>
    rw [sorted_concat]
    exact ih.insert

/-- **Of the values of a key the last one is kept.** -/
theorem valuesAt_sorted (key : String) (entries : List (String × Json)) :
    valuesAt key (sorted entries) = (valuesAt key entries).getLast?.toList := by
  induction entries using List.reverseRecOn with
  | nil => rfl
  | append_singleton entries e ih =>
    obtain ⟨k, v⟩ := e
    rw [sorted_concat]
    by_cases hk : k = key
    · subst hk
      rw [valuesAt_insert_self (inKeyOrder_sorted entries), valuesAt_concat_self,
        List.getLast?_concat]
      rfl
    · rw [valuesAt_insert_of_ne hk, valuesAt_concat_of_ne hk, ih]

end Json

/-! ## Arranged values write the same -/

/-- What writes the first part writes the second once it is arranged. -/
structure Part.Becomes (p q : Part) : Prop where
  key : q.key = p.key
  writes : ∀ v, p.writes v → q.writes v.arranged
  omissible : p.omissible → q.omissible

section Becomes

variable {parts parts' : List Part} {key : String}

theorem writtenItems_arranged (h : List.Forall₂ Part.Becomes parts parts') {items : List Json}
    (hitems : WrittenItems parts items) : WrittenItems parts' (items.map Json.arranged) := by
  induction h generalizing items with
  | nil =>
    cases items with
    | nil => trivial
    | cons v items => exact hitems.elim
  | cons hp _ ih =>
    cases items with
    | nil => exact ⟨hp.omissible hitems.1, ih hitems.2⟩
    | cons v items => exact ⟨hp.writes v hitems.1, ih hitems.2⟩

/-- **The order of keys does not matter** to what a value writes. -/
theorem Written.arranged (h : List.Forall₂ Part.Becomes parts parts') {v : Json}
    (hv : Written parts v) : Written parts' v.arranged := by
  cases v with
  | object entries =>
    rw [Json.arranged, Json.arrangedEntries_eq, written_object_iff]
    intro q hq
    obtain ⟨p, hp, hbecomes⟩ := exists_of_forall₂_of_mem h hq
    -- a key that has one value at most keeps it
    rw [Json.valuesAt_sorted, valuesAt_map, hbecomes.key]
    rcases hv p hp with ⟨hnone, homit⟩ | ⟨w, hone, hwrites⟩
    · rw [hnone]
      exact .inl ⟨rfl, hbecomes.omissible homit⟩
    · rw [hone]
      exact .inr ⟨w.arranged, rfl, hbecomes.writes w hwrites⟩
  | array items =>
    rw [Json.arranged, Json.arrangedItems_eq]
    exact writtenItems_arranged h hv
  | _ => exact hv.elim

theorem becomes_text {s : String} : (Part.text key s).Becomes (.text key s) :=
  ⟨rfl, by rintro _ rfl; rfl, id⟩

theorem becomes_number {n : Int} : (Part.number key n).Becomes (.number key n) :=
  ⟨rfl, by rintro _ rfl; rfl, id⟩

theorem becomes_optional {s : Option String} : (Part.optional key s).Becomes (.optional key s) :=
  ⟨rfl, by rintro _ rfl; cases s <;> rfl, id⟩

theorem becomes_extensions {e : Document.Extensions} :
    (Part.extensions Json.arrange e).Becomes (.extensions id e) :=
  ⟨rfl, by rintro _ ⟨entries, rfl, rfl⟩; exact ⟨_, rfl, rfl⟩, id⟩

theorem becomes_list {α : Type} {writes writes' : α → Json → Prop} {as : List α}
    (h : ∀ a v, writes a v → writes' a v.arranged) :
    (Part.list key writes as).Becomes (.list key writes' as) := by
  refine ⟨rfl, ?_, id⟩
  rintro _ ⟨items, rfl, hitems⟩
  refine ⟨items.map Json.arranged, by rw [Json.arranged, Json.arrangedItems_eq], ?_⟩
  rw [List.forall₂_map_right_iff]
  exact hitems.imp h

end Becomes

namespace Document

variable {v : Json}

theorem Method.WrittenAs.arranged {m : Method} (h : m.WrittenAs Json.arrange v) :
    m.WrittenAs id v.arranged := by
  have hparts : List.Forall₂ Part.Becomes (m.parts Json.arrange) (m.parts id) :=
    .cons becomes_text <| .cons becomes_text <| .cons becomes_text <|
      .cons becomes_extensions .nil
  exact Written.arranged hparts h

theorem Service.WrittenAs.arranged {s : Service} (h : s.WrittenAs Json.arrange v) :
    s.WrittenAs id v.arranged := by
  have hparts : List.Forall₂ Part.Becomes (s.parts Json.arrange) (s.parts id) :=
    .cons becomes_text <| .cons becomes_extensions <|
      .cons (becomes_list fun _ _ => Method.WrittenAs.arranged) .nil
  exact Written.arranged hparts h

theorem Oneof.WrittenAs.arranged {o : Oneof} (h : o.WrittenAs Json.arrange v) :
    o.WrittenAs id v.arranged := by
  have hparts : List.Forall₂ Part.Becomes (o.parts Json.arrange) (o.parts id) :=
    .cons becomes_text <| .cons becomes_extensions .nil
  exact Written.arranged hparts h

theorem Field.WrittenAs.arranged {f : Field} (h : f.WrittenAs Json.arrange v) :
    f.WrittenAs id v.arranged := by
  have hparts : List.Forall₂ Part.Becomes (f.parts Json.arrange) (f.parts id) :=
    .cons becomes_text <| .cons becomes_number <| .cons becomes_optional <|
      .cons becomes_optional <| .cons becomes_optional <| .cons becomes_optional <|
      .cons becomes_optional <| .cons becomes_extensions .nil
  exact Written.arranged hparts h

theorem Message.WrittenAs.arranged {m : Message} (h : m.WrittenAs Json.arrange v) :
    m.WrittenAs id v.arranged := by
  have hparts : List.Forall₂ Part.Becomes (m.parts Json.arrange) (m.parts id) :=
    .cons becomes_text <| .cons becomes_extensions <|
      .cons (becomes_list fun _ _ => Oneof.WrittenAs.arranged) <|
      .cons (becomes_list fun _ _ => Field.WrittenAs.arranged) .nil
  exact Written.arranged hparts h

theorem EnumValue.WrittenAs.arranged {x : EnumValue} (h : x.WrittenAs Json.arrange v) :
    x.WrittenAs id v.arranged := by
  have hparts : List.Forall₂ Part.Becomes (x.parts Json.arrange) (x.parts id) :=
    .cons becomes_text <| .cons becomes_number <| .cons becomes_extensions .nil
  exact Written.arranged hparts h

theorem Enum.WrittenAs.arranged {e : Enum} (h : e.WrittenAs Json.arrange v) :
    e.WrittenAs id v.arranged := by
  have hparts : List.Forall₂ Part.Becomes (e.parts Json.arrange) (e.parts id) :=
    .cons becomes_text <| .cons becomes_extensions <|
      .cons (becomes_list fun _ _ => EnumValue.WrittenAs.arranged) .nil
  exact Written.arranged hparts h

/-- **A value writes the same document when it is arranged.** -/
theorem WrittenAs.arranged {d : Document} (h : d.WrittenAs Json.arrange v) :
    d.WrittenAs id v.arranged := by
  have hparts : List.Forall₂ Part.Becomes (d.parts Json.arrange) (d.parts id) :=
    .cons ⟨rfl, by rintro _ rfl; rfl, id⟩ <|
      .cons (becomes_list fun _ _ => Service.WrittenAs.arranged) <|
      .cons (becomes_list fun _ _ => Message.WrittenAs.arranged) <|
      .cons (becomes_list fun _ _ => Enum.WrittenAs.arranged) .nil
  exact Written.arranged hparts h

end Document

/-! ## Drafts -/

namespace Json.Draft

mutual

/-- The draft of a value, without faults. -/
def ofJson : Json → Draft
  | .null => .null
  | .bool b => .bool b
  | .number n => .number (some n)
  | .text s => .text (some s)
  | .array items => .array false (ofItems items) true
  | .object entries => .object false (ofEntries entries) true

/-- The drafts of the items of an array. -/
def ofItems : List Json → List Draft
  | [] => []
  | v :: vs => ofJson v :: ofItems vs

/-- The drafts of the entries of an object. -/
def ofEntries : List (String × Json) → List (Option String × Draft)
  | [] => []
  | (k, v) :: rest => (some k, ofJson v) :: ofEntries rest

end

theorem ofItems_eq (items : List Json) : ofItems items = items.map ofJson := by
  induction items with
  | nil => rfl
  | cons v items ih => rw [ofItems, ih, List.map_cons]

theorem ofEntries_eq (entries : List (String × Json)) :
    ofEntries entries = entries.map fun e => (some e.1, ofJson e.2) := by
  induction entries with
  | nil => rfl
  | cons e entries ih => rw [ofEntries, ih, List.map_cons]

mutual

theorem sound_ofJson : (v : Json) → (ofJson v).sound = true
  | .null | .bool _ | .number _ | .text _ => rfl
  | .array items => soundItems_ofItems items
  | .object entries => soundEntries_ofEntries entries

theorem soundItems_ofItems : (items : List Json) → soundItems (ofItems items) = true
  | [] => rfl
  | v :: items => by
    rw [ofItems, soundItems, sound_ofJson v, soundItems_ofItems items]
    rfl

theorem soundEntries_ofEntries :
    (entries : List (String × Json)) → soundEntries (ofEntries entries) = true
  | [] => rfl
  | (k, v) :: entries => by
    rw [ofEntries, soundEntries, sound_ofJson v, soundEntries_ofEntries entries]
    rfl

end

mutual

/-- **The value of a draft is arranged.** -/
theorem toJson_ofJson : (v : Json) → (ofJson v).toJson = .ok v.arranged
  | .null | .bool _ | .number _ | .text _ => rfl
  | .array items => by
    rw [ofJson, toJson, toItems_ofItems items]
    rfl
  | .object entries => by
    rw [ofJson, toJson, toEntries_ofEntries entries]
    rfl

theorem toItems_ofItems : (items : List Json) → toItems (ofItems items) = .ok (arrangedItems items)
  | [] => rfl
  | v :: items => by
    rw [ofItems, toItems, toJson_ofJson v, toItems_ofItems items]
    rfl

theorem toEntries_ofEntries : (entries : List (String × Json)) →
    toEntries (ofEntries entries) = .ok (arrangedEntries entries)
  | [] => rfl
  | (k, v) :: entries => by
    rw [ofEntries, toEntries, toJson_ofJson v, toEntries_ofEntries entries]
    rfl

end

/-! ## Reading drafts -/

theorem need_eq_ok_iff {ok : Bool} : need ok = .ok () ↔ ok = true := by
  cases ok <;> simp [need]

theorem refuses_refuse : Refuses (@refuse) := by
  intro β m y h
  cases h

theorem readText_ofJson {v : Json} {s : String} : readText (ofJson v) = .ok s ↔ v = .text s := by
  cases v <;> simp [ofJson, readText, wrongType, refuse]

theorem readInt_ofJson {lo hi n : Int} {expected : String} {v : Json} :
    readInt lo hi expected (ofJson v) = .ok n ↔ v = .number (.int n) ∧ lo ≤ n ∧ n ≤ hi := by
  have hsame : readInt lo hi expected (ofJson v) =
      (Json.readInt lo hi expected v).mapError .mismatch := by
    cases v with
    | number m =>
      cases m with
      | int k =>
        rw [ofJson, readInt, Json.readInt]
        split_ifs <;> rfl
      | float x => rfl
    | _ => rfl
  rw [hsame, mapError_eq_ok, readInt_eq_ok_iff]

theorem readList_ofJson {α : Type} {read : Draft → Except TextError α} {v : Json} {as : List α} :
    readList read (ofJson v) = .ok as ↔ WrittenList (fun a v => read (ofJson v) = .ok a) as v := by
  unfold WrittenList
  cases v with
  | array items =>
    have hread : readList read (ofJson (.array items)) = (items.map ofJson).mapM read := by
      rw [ofJson, ofItems_eq, readList]
      cases (items.map ofJson).mapM read <;> rfl
    rw [hread, mapM_eq_ok_iff, List.forall₂_map_left_iff]
    simp only [Json.array.injEq, exists_eq_left']
    exact ⟨List.Forall₂.flip, List.Forall₂.flip⟩
  | _ => simp [ofJson, readList, wrongType, refuse]

theorem readValues_ofJson {v : Json} {e : Document.Extensions} :
    readValues (ofJson v) = .ok e ↔ ∃ entries, v = .object entries ∧ arrange entries = e := by
  cases v with
  | object entries =>
    have hread : readValues (ofJson (.object entries)) = .ok (arrange entries) := by
      rw [ofJson, readValues, toEntries_ofEntries]
      rfl
    rw [hread]
    simp
  | _ => simp [ofJson, readValues, wrongType, refuse]

/-- A record is read from the draft of a value that writes its members. -/
theorem readRecord_ofJson {α : Type} {rec : Record (Except TextError) Draft α}
    {members : List (Member TextError Draft α)} (h : rec.MadeOf members) {v : Json} {a : α} :
    readRecord rec (ofJson v) = .ok a ↔ Written (members.map (·.part ofJson rec.blank a)) v := by
  cases v with
  | object entries =>
    rw [← h.object_iff_written refuses_refuse (fun d => need d.sound)
      (fun v => need_eq_ok_iff.2 (sound_ofJson v)), ofJson, readRecord, ofEntries_eq,
      List.foldlM_map, Record.takeIn, List.foldlM_map]
    rfl
  | array items =>
    have hread : readRecord rec (ofJson (.array items)) =
        rec.fillItems refuse (need true) 0 rec.slots (items.map ofJson) rec.blank >>=
          fun p => need p.2.isEmpty >>= fun _ => pure p.1 := by
      rw [ofJson, ofItems_eq]
      rfl
    rw [← h.array_iff_written refuses_refuse (need_eq_ok_iff.2 rfl), hread, bind_eq_ok]
    constructor
    · rintro ⟨⟨b, left⟩, hfill, hok⟩
      cases left with
      | nil =>
        obtain rfl : b = a := Except.ok.inj hok
        exact hfill
      | cons x left => cases hok
    · intro hfill
      exact ⟨_, hfill, rfl⟩
  | _ => simp [ofJson, readRecord, wrongType, refuse, Written]

/-- **Drafts without faults are a format of JSON values.** -/
theorem readsJson_reader : Draft.reader.ReadsJson ofJson arrange where
  text v s := readText_ofJson
  optionalText v s := by
    cases s <;> cases v <;> simp [reader, ofJson, readOptionalText, readText, wrongType, refuse,
      ofText?, bind, Except.bind, pure, Except.pure]
  natural32 v n := by
    rw [← exists_natural32_iff]
    simp only [reader, readNatural32, bind_eq_ok, readInt_ofJson, pure, Except.pure,
      Except.ok.injEq]
  integer32 v n := by
    rw [← exists_integer32_iff]
    simp only [reader, readInteger32, bind_eq_ok, readInt_ofJson, pure, Except.pure,
      Except.ok.injEq]
  list read v as := readList_ofJson
  record rec members h v a := readRecord_ofJson h
  values v e := readValues_ofJson

/-! ## Drafts without faults -/

mutual

/-- **A draft that has a value is the draft of one.** -/
theorem exists_eq_ofJson : (d : Draft) → ∀ {v : Json}, d.toJson = .ok v →
    ∃ w, d = ofJson w ∧ v = w.arranged
  | .null, _, h => ⟨.null, rfl, (Except.ok.inj h).symm⟩
  | .bool b, _, h => ⟨.bool b, rfl, (Except.ok.inj h).symm⟩
  | .number (some n), _, h => ⟨.number n, rfl, (Except.ok.inj h).symm⟩
  | .text (some s), _, h => ⟨.text s, rfl, (Except.ok.inj h).symm⟩
  | .array false items true, v, h => by
    rw [toJson, bind_eq_ok] at h
    obtain ⟨vs, hitems, hv⟩ := h
    obtain ⟨ws, rfl, rfl⟩ := exists_eq_ofItems items hitems
    exact ⟨.array ws, rfl, (Except.ok.inj hv).symm⟩
  | .object false entries true, v, h => by
    rw [toJson, bind_eq_ok] at h
    obtain ⟨es, hentries, hv⟩ := h
    obtain ⟨ws, rfl, rfl⟩ := exists_eq_ofEntries entries hentries
    exact ⟨.object ws, rfl, (Except.ok.inj hv).symm⟩
  | .number none, _, h | .text none, _, h | .broken, _, h => by cases h
  | .array true _ _, _, h | .array false _ false, _, h => by cases h
  | .object true _ _, _, h | .object false _ false, _, h => by cases h

theorem exists_eq_ofItems : (ds : List Draft) → ∀ {vs : List Json}, toItems ds = .ok vs →
    ∃ ws, ds = ofItems ws ∧ vs = arrangedItems ws
  | [], _, h => ⟨[], rfl, (Except.ok.inj h).symm⟩
  | d :: ds, vs, h => by
    rw [toItems, bind_eq_ok] at h
    obtain ⟨v, hd, h⟩ := h
    obtain ⟨vs, hds, hvs⟩ := bind_eq_ok.1 h
    obtain ⟨w, rfl, rfl⟩ := exists_eq_ofJson d hd
    obtain ⟨ws, rfl, rfl⟩ := exists_eq_ofItems ds hds
    exact ⟨w :: ws, rfl, (Except.ok.inj hvs).symm⟩

theorem exists_eq_ofEntries : (es : List (Option String × Draft)) →
    ∀ {vs : List (String × Json)}, toEntries es = .ok vs →
      ∃ ws, es = ofEntries ws ∧ vs = arrangedEntries ws
  | [], _, h => ⟨[], rfl, (Except.ok.inj h).symm⟩
  | (none, _) :: _, _, h => by cases h
  | (some k, d) :: es, vs, h => by
    rw [toEntries, bind_eq_ok] at h
    obtain ⟨v, hd, h⟩ := h
    obtain ⟨vs, hes, hvs⟩ := bind_eq_ok.1 h
    obtain ⟨w, rfl, rfl⟩ := exists_eq_ofJson d hd
    obtain ⟨ws, rfl, rfl⟩ := exists_eq_ofEntries es hes
    exact ⟨(k, w) :: ws, rfl, (Except.ok.inj hvs).symm⟩

end

end Json.Draft

theorem Json.readAll_eq_ok_iff {α : Type} {read : Draft → Except TextError α} {text : String}
    {a : α} : readAll read text = .ok a ↔
      read (Draft.ofText text).1 = .ok a ∧ (Draft.ofText text).2 = true := by
  unfold readAll
  simp only [bind_eq_ok, pure, Except.pure, Except.ok.injEq]
  constructor
  · rintro ⟨b, hread, ⟨⟩, hended, rfl⟩
    exact ⟨hread, Draft.need_eq_ok_iff.1 hended⟩
  · rintro ⟨hread, hended⟩
    exact ⟨a, hread, (), Draft.need_eq_ok_iff.2 hended, rfl⟩

/-- **A document read from a text is read from the value in the text.** -/
theorem Document.ofJson_of_ofJsonText {text : String} {v : Json} {d : Document}
    (hv : Json.ofText text = .ok v) (hd : ofJsonText text = .ok d) : ofJson v = .ok d := by
  obtain ⟨hdraft, -⟩ := Json.readAll_eq_ok_iff.1 hv
  obtain ⟨hread, -⟩ := Json.readAll_eq_ok_iff.1 hd
  -- a text that has a value has a draft without faults
  obtain ⟨w, hw, rfl⟩ := Json.Draft.exists_eq_ofJson _ hdraft
  rw [hw, read_eq_ok_iff Json.Draft.readsJson_reader] at hread
  exact ofJson_eq_ok_iff.2 hread.arranged

end ServiceContract
