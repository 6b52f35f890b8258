import Mathlib
import CrashTest.Json.Decode
import CrashTest.Proofs.Json.Read
/-!
Decoding what was read back.

`Decodes d j a` says that the decoder `d` gives back `a` from every node that stands for the
value `j`, from any source: read from text, held back, or built in memory. Each shape of decoder
the formats use gets one lemma that builds this from its parts: text and whole numbers; variant
names; records whose members are distinct and all known; variants tagged by a first member beside
their own fields; and variants tagged by one member with the content in a second. With the
reader's completeness this gives `decodeText_pretty`: the pretty text of a value decodes to what
the value stands for.
-/
namespace CrashTest.Json

/-! ### Nodes that stand for a value -/

@[simp] theorem readAs_str {s : String} {n : Node} : ReadAs (.str s) n ↔ ∃ span, n = .str s span := by
  cases n <;> simp [ReadAs, eq_comm]

@[simp] theorem readAs_nat {k : Nat} {n : Node} :
    ReadAs (.nat k) n ↔ ∃ span, n = .num (.nat k) span := by
  cases n <;> simp [ReadAs]

@[simp] theorem readAs_obj {ms : List (String × Json)} {n : Node} :
    ReadAs (.obj ms) n ↔
      ∃ nodes stop start, n = .obj nodes (.closed stop) start ∧ MembersReadAs ms nodes := by
  cases n with
  | obj nodes close start => cases close <;> simp [ReadAs]
  | _ => simp [ReadAs]

@[simp] theorem membersReadAs_nil {nodes : List (String × Gap × Node)} :
    MembersReadAs [] nodes ↔ nodes = [] := by
  cases nodes <;> simp [MembersReadAs]

@[simp] theorem membersReadAs_cons {k : String} {v : Json} {ms : List (String × Json)}
    {nodes : List (String × Gap × Node)} :
    MembersReadAs ((k, v) :: ms) nodes ↔
      ∃ gap n ns, nodes = (k, gap, n) :: ns ∧ ReadAs v n ∧ MembersReadAs ms ns := by
  cases nodes with
  | nil => simp [MembersReadAs]
  | cons m ns =>
    obtain ⟨k', gap, n⟩ := m
    simp [MembersReadAs, eq_comm]

/-- Nodes read for object members carry the members' keys, in order. -/
theorem MembersReadAs.keys {ms : List (String × Json)} {nodes : List (String × Gap × Node)}
    (h : MembersReadAs ms nodes) : nodes.map (·.1) = ms.map (·.1) := by
  induction ms generalizing nodes with
  | nil => simp_all
  | cons m ms ih =>
    obtain ⟨k, v⟩ := m
    obtain ⟨gap, n, ns, rfl, -, hRest⟩ := membersReadAs_cons.1 h
    simp [ih hRest]

/-- Every node read for an object member stands for the value of a member of the same key. -/
theorem MembersReadAs.exists_of_mem {ms : List (String × Json)} {nodes : List (String × Gap × Node)}
    (h : MembersReadAs ms nodes) : ∀ m ∈ nodes, ∃ j, (m.1, j) ∈ ms ∧ ReadAs j m.2.2 := by
  induction ms generalizing nodes with
  | nil => simp_all
  | cons m ms ih =>
    obtain ⟨k, v⟩ := m
    obtain ⟨gap, n, ns, rfl, hAs, hRest⟩ := membersReadAs_cons.1 h
    rintro m (_ | ⟨_, hm⟩)
    · exact ⟨v, List.mem_cons_self .., hAs⟩
    · obtain ⟨j, hj, hjAs⟩ := ih hRest m hm
      exact ⟨j, List.mem_cons_of_mem _ hj, hjAs⟩

mutual

/-- A node that stands for a value holds no syntax fault. -/
theorem ReadAs.fault?_eq_none : ∀ {v : Json} {n : Node}, ReadAs v n → n.fault? = none
  | .null, .null _, _ | .bool _, .bool _ _, _ | .nat _, .num _ _, _ | .str _, .str _ _, _ => rfl
  | .arr _, .arr _ _ _, ⟨⟨_, hClose⟩, hItems⟩ => by
    simp [Node.fault?, hClose, Node.closeFault?, ItemsReadAs.fault?_eq_none hItems]
  | .obj _, .obj _ _ _, ⟨⟨_, hClose⟩, hMembers⟩ => by
    simp [Node.fault?, hClose, Node.closeFault?, MembersReadAs.fault?_eq_none hMembers]
  | .null, .bool .., h | .null, .num .., h | .null, .str .., h | .null, .arr .., h
  | .null, .obj .., h | .null, .broken .., h => by simp [ReadAs] at h
  | .bool _, .null .., h | .bool _, .num .., h | .bool _, .str .., h | .bool _, .arr .., h
  | .bool _, .obj .., h | .bool _, .broken .., h => by simp [ReadAs] at h
  | .nat _, .null .., h | .nat _, .bool .., h | .nat _, .str .., h | .nat _, .arr .., h
  | .nat _, .obj .., h | .nat _, .broken .., h => by simp [ReadAs] at h
  | .int _, _, h | .float _, _, h => by cases ‹Node› <;> simp [ReadAs] at h
  | .str _, .null .., h | .str _, .bool .., h | .str _, .num .., h | .str _, .arr .., h
  | .str _, .obj .., h | .str _, .broken .., h => by simp [ReadAs] at h
  | .arr _, .null .., h | .arr _, .bool .., h | .arr _, .num .., h | .arr _, .str .., h
  | .arr _, .obj .., h | .arr _, .broken .., h => by simp [ReadAs] at h
  | .obj _, .null .., h | .obj _, .bool .., h | .obj _, .num .., h | .obj _, .str .., h
  | .obj _, .arr .., h | .obj _, .broken .., h => by simp [ReadAs] at h

/-- Nodes that stand for list items hold no syntax fault. -/
theorem ItemsReadAs.fault?_eq_none :
    ∀ {vs : List Json} {nodes : List Node}, ItemsReadAs vs nodes → Node.itemsFault? nodes = none
  | [], [], _ => rfl
  | _ :: _, _ :: _, ⟨hAs, hRest⟩ => by
    simp [Node.itemsFault?, ReadAs.fault?_eq_none hAs, ItemsReadAs.fault?_eq_none hRest]
  | [], _ :: _, h | _ :: _, [], h => by simp [ItemsReadAs] at h

/-- Nodes that stand for object members hold no syntax fault. -/
theorem MembersReadAs.fault?_eq_none :
    ∀ {ms : List (String × Json)} {nodes : List (String × Gap × Node)},
      MembersReadAs ms nodes → Node.membersFault? nodes = none
  | [], [], _ => rfl
  | (_, _) :: _, (_, _, _) :: _, ⟨_, hAs, hRest⟩ => by
    simp [Node.membersFault?, ReadAs.fault?_eq_none hAs, MembersReadAs.fault?_eq_none hRest]
  | [], _ :: _, h | _ :: _, [], h => by simp [MembersReadAs] at h

end

/-! ### Decoders that invert the printer -/

/-- The decoder `d` gives back `a` from every node that stands for `j`, from any source. -/
def Decodes {α : Type} (d : Decoder α) (j : Json) (a : α) : Prop :=
  ∀ src n, ReadAs j n → d src n = .ok a

variable {α : Type}

namespace Decodes

theorem textNamed (name s : String) : Decodes (Decoder.textNamed name) (.str s) s := by
  intro src n hAs
  obtain ⟨span, rfl⟩ := readAs_str.1 hAs
  rfl

theorem unsigned (name : String) {bound k : Nat} (hk : k ≤ bound) :
    Decodes (Decoder.unsigned name bound) (.nat k) k := by
  intro src n hAs
  obtain ⟨span, rfl⟩ := readAs_nat.1 hAs
  simp [Decoder.unsigned, hk]

theorem u64 {k : Nat} (hk : k < 2 ^ 64) : Decodes Decoder.u64 (.nat k) k :=
  unsigned "u64" (by omega)

/-- A decoder followed by a function gives the function's value. -/
theorem map {β : Type} {d : Decoder α} {j : Json} {a : α} (h : Decodes d j a) (f : α → β) :
    Decodes (fun src n => (d src n).map f) j (f a) := by
  intro src n hAs
  simp [h src n hAs, Except.map]

end Decodes

namespace Decoder

theorem variantIndex_str {names : List String} {name : String} {i : Nat}
    (hIdx : names.idxOf? name = some i) (src : Source) (span : Option Span) :
    variantIndex names src (.str name span) = .ok i := by
  simp [variantIndex, hIdx]

/-- What `named` and `adjacent` take for the variant at `i`. -/
theorem pick_eq {variants : List (String × Variant α)} {i : Nat} {w : Variant α}
    (h : variants[i]?.map (·.2) = some w) (default : Variant α) :
    (variants[i]?.map (·.2)).getD default = w := by
  simp [h]

end Decoder

/-- A variant without content is decoded from its name. -/
theorem Decodes.named_unit {variants : List (String × Decoder.Variant α)} {name : String}
    {i : Nat} {a : α} (hIdx : (variants.map (·.1)).idxOf? name = some i)
    (hVariant : variants[i]?.map (·.2) = some (.unit a)) :
    Decodes (Decoder.named variants) (.str name) a := by
  intro src n hAs
  obtain ⟨span, rfl⟩ := readAs_str.1 hAs
  simp only [Decoder.named, Decoder.variantIndex_str hIdx, bind, Except.bind,
    Decoder.pick_eq hVariant]

/-! ### Records -/

section Record

variable {src : Source} {checks : List FieldCheck}

/-- Members with distinct keys, each known to the record and passing its check, are all taken,
in text order, after those seen before. -/
theorem Decoder.checkMembers_of_known :
    ∀ (nodes : List (String × Gap × Node)) (seen : List (String × Node)),
      (∀ m ∈ nodes, ∃ c, checks.find? (·.name == m.1) = some c ∧ c.check src m.2.2 = .ok ()) →
      (nodes.map (·.1)).Nodup → (∀ m ∈ nodes, ∀ s ∈ seen, s.1 ≠ m.1) →
      checkMembers src checks nodes seen = .ok (seen.reverse ++ nodes.map fun m => (m.1, m.2.2))
  | [], seen, _, _, _ => by simp [checkMembers]
  | (k, gap, x) :: rest, seen, hKnown, hNodup, hFresh => by
    obtain ⟨c, hFind, hCheck⟩ := hKnown (k, gap, x) (List.mem_cons_self ..)
    have hUnseen : seen.any (·.1 == k) = false := by
      simpa using fun s hs => hFresh (k, gap, x) (List.mem_cons_self ..) s hs
    rw [List.map_cons, List.nodup_cons] at hNodup
    -- the member joins the seen ones, and the rest are fresh against it too
    have hRest := checkMembers_of_known rest ((k, x) :: seen)
      (fun m hm => hKnown m (List.mem_cons_of_mem _ hm)) hNodup.2 (by
        rintro m hm s (_ | ⟨_, hs⟩)
        · exact fun h => hNodup.1 (h ▸ List.mem_map_of_mem hm)
        · exact hFresh m (List.mem_cons_of_mem _ hm) s hs)
    simp [checkMembers, hFind, hUnseen, hCheck, fixAt, hRest, bind, Except.bind]

/-- The value of a field whose first member stands for `j`, when its decoder decodes `j` to
`a`. -/
theorem Fields.read_of_readAs {ms : List (String × Json)} {nodes : List (String × Gap × Node)}
    (hAs : MembersReadAs ms nodes) (f : Field α) {j : Json} {a : α}
    (hLookup : ms.lookup f.name = some j) (hf : Decodes f.decoder j a) (src : Source) :
    Fields.read ⟨src, nodes.map fun m => (m.1, m.2.2)⟩ f = .ok a := by
  induction ms generalizing nodes with
  | nil => simp at hLookup
  | cons m ms ih =>
    obtain ⟨k, v⟩ := m
    obtain ⟨gap, n, ns, rfl, hAsV, hRest⟩ := membersReadAs_cons.1 hAs
    by_cases hk : k = f.name
    · -- the first member is the field's, and both lookups stop at it
      subst hk
      obtain rfl : v = j := by simpa using hLookup
      simp [Fields.read, hf src n hAsV]
    · have hSkip : (k == f.name) = false := by simpa using hk
      have hSkip' : (f.name == k) = false := by simpa using Ne.symm hk
      have := ih hRest (by simpa [List.lookup, hSkip'] using hLookup)
      simp only [Fields.read, List.map_cons, List.find?_cons, hSkip] at this ⊢
      exact this

/-- A field's check passes on a node its decoder decodes. -/
theorem Decodes.toCheck {f : Field α} {j : Json} {a : α} (hf : Decodes f.decoder j a) :
    ∀ src n, ReadAs j n → f.toCheck.check src n = .ok () := by
  intro src n hAs
  simp [Field.toCheck, hf src n hAs, Except.map]

/-- Checks that match an object's members one for one and by name find, for each member, the
check of its name, the keys being distinct. -/
theorem find?_of_forall₂ {P : FieldCheck → String × Json → Prop} :
    ∀ {checks : List FieldCheck} {ms : List (String × Json)},
      List.Forall₂ (fun c m => c.name = m.1 ∧ P c m) checks ms → (ms.map (·.1)).Nodup →
      ∀ {k : String} {j : Json}, (k, j) ∈ ms → ∃ c, checks.find? (·.name == k) = some c ∧ P c (k, j)
  | _, _, .nil, _, _, _, hMem => absurd hMem List.not_mem_nil
  | c :: _, m :: ms, .cons ⟨hName, hP⟩ hRest, hNodup, k, j, hMem => by
    rw [List.map_cons, List.nodup_cons] at hNodup
    by_cases hk : m.1 = k
    · -- the first check is the member's, and the member is `(k, j)`, the keys being distinct
      have hm : m = (k, j) := by
        rcases List.mem_cons.1 hMem with h | h
        · exact h.symm
        · have hIn : k ∈ ms.map (·.1) := List.mem_map_of_mem h
          exact absurd (hk ▸ hIn) hNodup.1
      subst hm
      exact ⟨c, by simp [hName], hP⟩
    · have hMem' : (k, j) ∈ ms := by
        rcases List.mem_cons.1 hMem with h | h
        · exact absurd (congrArg Prod.fst h).symm hk
        · exact h
      obtain ⟨c', hFind, hP'⟩ := find?_of_forall₂ hRest hNodup.2 hMem'
      exact ⟨c', by simp [hName, hk, hFind], hP'⟩

theorem names_of_forall₂ {P : FieldCheck → String × Json → Prop} {checks : List FieldCheck}
    {ms : List (String × Json)} (h : List.Forall₂ (fun c m => c.name = m.1 ∧ P c m) checks ms) :
    checks.map (·.name) = ms.map (·.1) := by
  induction h with
  | nil => rfl
  | cons hHead _ ih => simp [hHead.1, ih]

/-- A record is decoded from an object that gives its fields one for one, in the order of its
checks, each passing its check, when `build` gives `a` from those members. -/
theorem Decodes.record {name : String} {build : Fields → Except DecodeError α}
    {ms : List (String × Json)} {a : α} (hNodup : (ms.map (·.1)).Nodup)
    (hChecks : List.Forall₂ (fun c m => c.name = m.1 ∧ ∀ src n, ReadAs m.2 n → c.check src n = .ok ())
      checks ms)
    (hBuild : ∀ src nodes, MembersReadAs ms nodes →
      build ⟨src, nodes.map fun m => (m.1, m.2.2)⟩ = .ok a) :
    Decodes (Decoder.record name checks build) (.obj ms) a := by
  intro src n hAs
  obtain ⟨nodes, stop, start, rfl, hMembers⟩ := readAs_obj.1 hAs
  have hKeys := hMembers.keys
  have hGiven : Decoder.checkMembers src checks nodes [] =
      .ok ([].reverse ++ nodes.map fun m => (m.1, m.2.2)) :=
    Decoder.checkMembers_of_known nodes []
      (fun m hm => by
        obtain ⟨j, hj, hjAs⟩ := hMembers.exists_of_mem m hm
        obtain ⟨c, hFind, hCheck⟩ := find?_of_forall₂ hChecks hNodup hj
        exact ⟨c, hFind, hCheck src _ hjAs⟩)
      (hKeys ▸ hNodup) (by simp)
  -- every field is among the members, so none is missing
  have hNames := names_of_forall₂ hChecks
  have hNoneMissing : checks.find? (fun c => !c.optional &&
      !(nodes.map fun m => (m.1, m.2.2)).any (·.1 == c.name)) = none := by
    rw [List.find?_eq_none]
    intro c hc
    have hName : c.name ∈ nodes.map (·.1) := hKeys ▸ hNames ▸ List.mem_map_of_mem hc
    obtain ⟨m, hm, hmName⟩ := List.mem_map.1 hName
    simp only [Bool.and_eq_true, Bool.not_eq_eq_eq_not, Bool.not_true, List.any_eq_false,
      not_and, not_forall, not_not, beq_iff_eq]
    exact fun _ => ⟨(m.1, m.2.2), List.mem_map_of_mem hm, hmName⟩
  simp only [Decoder.record, hGiven, List.reverse_nil, List.nil_append, Decoder.closeCheck, bind,
    Except.bind, hNoneMissing, hBuild src nodes hMembers, Decoder.fixAt]

end Record

/-! ### Tagged variants -/

section Tagged

variable {src : Source} {tag : String} {names : List String}

/-- Members after the tag, none of them another tag and none holding a fault, are held back in
order. -/
theorem Decoder.splitTag_of_untagged (found : Option Nat) :
    ∀ (others acc : List (String × Gap × Node)),
      (∀ m ∈ others, m.1 ≠ tag ∧ m.2.2.fault? = none) →
      splitTag src tag names others found acc = .ok (found, acc.reverse ++ others)
  | [], acc, _ => by simp [splitTag]
  | (k, gap, x) :: rest, acc, hOthers => by
    obtain ⟨hk, hx⟩ := hOthers (k, gap, x) (List.mem_cons_self ..)
    have hRest := splitTag_of_untagged found rest ((k, gap, x) :: acc)
      (fun m hm => hOthers m (List.mem_cons_of_mem _ hm))
    simp [splitTag, hk, skipCheck, hx, hRest, bind, Except.bind]

/-- A variant written with its name under `tag` first, beside the variant's own members, is
decoded from those members held back. -/
theorem Decodes.tagged {expecting : String} {variants : List (String × Decoder α)}
    {name : String} {i : Nat} {d : Decoder α} {others : List (String × Json)} {a : α}
    (hIdx : (variants.map (·.1)).idxOf? name = some i) (hVariant : variants[i]?.map (·.2) = some d)
    (hUntagged : ∀ m ∈ others, m.1 ≠ tag) (hContent : Decodes d (.obj others) a) :
    Decodes (Decoder.tagged expecting tag variants) (.obj ((tag, .str name) :: others)) a := by
  intro src n hAs
  obtain ⟨nodes, stop, start, rfl, hMembers⟩ := readAs_obj.1 hAs
  obtain ⟨gap, x, rest, rfl, hName, hRest⟩ := membersReadAs_cons.1 hMembers
  obtain ⟨span, rfl⟩ := readAs_str.1 hName
  have hSplit : Decoder.splitTag src tag (variants.map (·.1)) rest (some i) [] =
      .ok (some i, [].reverse ++ rest) := Decoder.splitTag_of_untagged (some i) rest [] (fun m hm => by
      obtain ⟨j, hj, hjAs⟩ := hRest.exists_of_mem m hm
      exact ⟨fun h => hUntagged _ hj h, hjAs.fault?_eq_none⟩)
  obtain ⟨w, hw, rfl⟩ := Option.map_eq_some_iff.1 hVariant
  have hContentAs : ReadAs (.obj others) (.obj rest (.closed none) none) :=
    readAs_obj.2 ⟨rest, none, none, rfl, hRest⟩
  simp [Decoder.tagged, Decoder.splitTag, Decoder.variantIndex_str hIdx, hSplit,
    Decoder.closeCheck, hw, hContent _ _ hContentAs, bind, Except.bind]

/-- A variant written with its name under `tag` and its content under `content` is decoded
from its content. -/
theorem Decodes.adjacent_content {expecting content : String}
    {variants : List (String × Decoder.Variant α)} {name : String} {i : Nat} {d : Decoder α}
    {j : Json} {a : α} (hKeys : tag ≠ content) (hIdx : (variants.map (·.1)).idxOf? name = some i)
    (hVariant : variants[i]?.map (·.2) = some (.content d)) (hContent : Decodes d j a) :
    Decodes (Decoder.adjacent expecting tag content variants)
      (.obj [(tag, .str name), (content, j)]) a := by
  intro src n hAs
  obtain ⟨nodes, stop, start, rfl, hMembers⟩ := readAs_obj.1 hAs
  obtain ⟨gap, x, rest, rfl, hName, hRest⟩ := membersReadAs_cons.1 hMembers
  obtain ⟨span, rfl⟩ := readAs_str.1 hName
  obtain ⟨gap', y, rest', rfl, hY, hNil⟩ := membersReadAs_cons.1 hRest
  obtain rfl := membersReadAs_nil.1 hNil
  simp [Decoder.adjacent, Decoder.nextRelevant, Decoder.keyRole, hKeys.symm,
    Decoder.variantIndex_str hIdx, Decoder.pick_eq hVariant, hContent src y hY, Decoder.closeCheck,
    bind, Except.bind]

/-- A variant without content, written with its name under `tag` alone, is decoded from its
name. -/
theorem Decodes.adjacent_unit {expecting content : String}
    {variants : List (String × Decoder.Variant α)} {name : String} {i : Nat} {a : α}
    (hIdx : (variants.map (·.1)).idxOf? name = some i)
    (hVariant : variants[i]?.map (·.2) = some (.unit a)) :
    Decodes (Decoder.adjacent expecting tag content variants) (.obj [(tag, .str name)]) a := by
  intro src n hAs
  obtain ⟨nodes, stop, start, rfl, hMembers⟩ := readAs_obj.1 hAs
  obtain ⟨gap, x, rest, rfl, hName, hNil⟩ := membersReadAs_cons.1 hMembers
  obtain ⟨span, rfl⟩ := readAs_str.1 hName
  obtain rfl := membersReadAs_nil.1 hNil
  simp [Decoder.adjacent, Decoder.nextRelevant, Decoder.keyRole, Decoder.variantIndex_str hIdx,
    Decoder.pick_eq hVariant, Decoder.closeCheck, bind, Except.bind]

end Tagged

/-- The pretty text of a value that fits the reader's depth decodes to what the value stands
for. -/
theorem decodeText_pretty {d : Decoder α} {j : Json} {a : α} (hFits : FitsIn maxDepth j)
    (hd : Decodes d j a) : decodeText d (pretty 0 j) = .ok a := by
  obtain ⟨node, hDoc, hAs⟩ := readDocument_pretty hFits
  simp [decodeText, hDoc, hd .text node hAs]

end CrashTest.Json
