import Mathlib.Data.List.Find
import SchemaAtlas.Proofs.Diagram.Labels
import SchemaAtlas.Proofs.Diagram.Recovery

/-! A graph in the DOT language and a Mermaid diagram show the same tables, with the same columns and keys,
and the same arrows between them. Both are read back from their texts. -/

namespace SchemaAtlas

open SchemaAtlas.Text

namespace Dot

def Node.inLine? (line : List Char) : Option Node := do
  let (id, rest) := cutOnce ' ' (← char '\t' line)
  let label ← "[label=\"".toList.isPrefixOf? (← rest)
  Node.ofPieces? (String.ofList id) (pieces label)

def endsInLine? (line : List Char) : Option (String × String) := do
  match (cutAt ' ' (← char '\t' line)).map String.ofList with
  | source :: "->" :: target :: _ => some (source, target)
  | _ => none

structure Drawing where
  nodes : List Node
  edges : List (String × String)
deriving DecidableEq, Repr

def read (text : String) : Drawing where
  nodes := (cutAt '\n' text.toList).filterMap Node.inLine?
  edges := (cutAt '\n' text.toList).filterMap endsInLine?

namespace Drawing

def ids (d : Drawing) : List String := d.nodes.map (·.id)

def title? (d : Drawing) (id : String) : Option String := (d.nodes.find? (·.id == id)).map (·.title)

structure Shows (d : Drawing) (o : Outline) : Prop where
  ids_nodup : d.ids.Nodup
  nodes_eq : d.nodes.map (fun n => (n.title, n.rows)) = o.tables.map fun t => (t.1, t.2.map Row.ofColumn)
  ends_mem : ∀ e ∈ d.edges, e.1 ∈ d.ids ∧ e.2 ∈ d.ids
  edges_eq : d.edges.map (fun e => (d.title? e.1, d.title? e.2)) = o.arrows.map fun a => (some a.1, some a.2)

end Drawing

def Node.ofTable (t : Table) : Node := ⟨quote t.name, t.name, t.columns.map Row.ofColumn⟩

lemma not_mem_quote {name : String} (h : Name.Clean name) {k : Char}
    (hk : Name.isNameChar k = false ∧ k ≠ '"' ∧ k ≠ '\\') : k ∉ quoteChars name.toList :=
  not_mem_quoteChars hk.2 (h.not_mem hk.1)

section Table

variable {t : Table} (h : t.Sound)

include h

lemma toList_tableNode : (tableNode t).text.toList = '\t' :: (quoteChars t.name.toList ++
    ' ' :: ("[label=\"".toList ++ ((recordLabel t).toList ++
      '"' :: " fillcolor=lightblue style=filled]".toList))) := by
  rw [tableNode, Statement.text]
  simp only [String.toList_append, quote_recordLabel h]
  simp [quote]

lemma Node.inLine?_tableNode : Node.inLine? (tableNode t).text.toList = some (Node.ofTable t) := by
  have hid : ' ' ∉ quoteChars t.name.toList := not_mem_quote h.name_clean (by decide)
  rw [toList_tableNode h, Node.inLine?, char_eq_some.mpr rfl]
  simp only [Option.bind_eq_bind, Option.bind_some, cutOnce_append hid,
    List.isPrefixOf?_eq_some_iff_append_eq.mpr rfl, Node.ofPieces?_recordLabel h]
  rfl

lemma endsInLine?_tableNode : endsInLine? (tableNode t).text.toList = none := by
  have hid : ' ' ∉ quoteChars t.name.toList := not_mem_quote h.name_clean (by decide)
  obtain ⟨w, ws, hw⟩ := exists_cutAt_cons (k := ' ') (c := '[') (by decide)
    ("label=\"".toList ++ ((recordLabel t).toList ++ '"' :: " fillcolor=lightblue style=filled]".toList))
  have hattributes : cutAt ' ' ("[label=\"".toList ++ ((recordLabel t).toList ++
      '"' :: " fillcolor=lightblue style=filled]".toList)) = ('[' :: w) :: ws := hw
  have hword : String.ofList ('[' :: w) ≠ "->" := by simp [← String.toList_inj]
  rw [toList_tableNode h, endsInLine?, char_eq_some.mpr rfl]
  simp only [Option.bind_eq_bind, Option.bind_some, cutAt_append hid, hattributes, List.map_cons]
  split <;> simp_all

lemma newline_not_mem_tableNode : '\n' ∉ (tableNode t).text.toList := by
  have hid : '\n' ∉ quoteChars t.name.toList := not_mem_quote h.name_clean (by decide)
  have hlabel : '\n' ∉ (recordLabel t).toList := not_mem_recordLabel h (by decide)
  rw [toList_tableNode h]
  simp [hid, hlabel]

end Table

section ForeignKey

variable {k : ForeignKey} (h : k.Sound)

include h

lemma toList_keyEdge : (keyEdge k).text.toList = '\t' :: (quoteChars k.source.toList ++
    ' ' :: ("->".toList ++ ' ' :: (quoteChars k.target.toList ++ ' ' :: ("[label=".toList ++
      (quoteChars (commas k.sourceColumns).toList ++ " arrowhead=crow arrowtail=tee dir=both]".toList))))) := by
  have hsource : edgeEnd k.source = quote k.source := edgeEnd_of_not_mem (h.source_clean.not_mem (by decide))
  have htarget : edgeEnd k.target = quote k.target := edgeEnd_of_not_mem (h.target_clean.not_mem (by decide))
  rw [keyEdge, Statement.text, hsource, htarget]
  simp [quote]

lemma endsInLine?_keyEdge : endsInLine? (keyEdge k).text.toList = some (quote k.source, quote k.target) := by
  have hsource : ' ' ∉ quoteChars k.source.toList := not_mem_quote h.source_clean (by decide)
  have htarget : ' ' ∉ quoteChars k.target.toList := not_mem_quote h.target_clean (by decide)
  rw [toList_keyEdge h, endsInLine?, char_eq_some.mpr rfl]
  simp only [Option.bind_eq_bind, Option.bind_some, cutAt_append hsource,
    cutAt_append (k := ' ') (w := "->".toList) (by decide), cutAt_append htarget, List.map_cons]
  rfl

lemma Node.inLine?_keyEdge : Node.inLine? (keyEdge k).text.toList = none := by
  have hsource : ' ' ∉ quoteChars k.source.toList := not_mem_quote h.source_clean (by decide)
  rw [toList_keyEdge h, Node.inLine?, char_eq_some.mpr rfl]
  simp only [Option.bind_eq_bind, Option.bind_some, cutOnce_append hsource]
  rfl

lemma newline_not_mem_keyEdge : '\n' ∉ (keyEdge k).text.toList := by
  have hsource : '\n' ∉ quoteChars k.source.toList := not_mem_quote h.source_clean (by decide)
  have htarget : '\n' ∉ quoteChars k.target.toList := not_mem_quote h.target_clean (by decide)
  have hcolumns : '\n' ∉ quoteChars (commas k.sourceColumns).toList := by
    apply not_mem_quoteChars (by decide)
    intro hm
    have hne : ∀ c ∈ (commas k.sourceColumns).toList, c ≠ '\n' := forall_mem_commas (by decide) (by decide)
      fun name hname c hc => ne_of_mem_of_not_mem hc ((h.sourceColumns_clean name hname).not_mem (by decide))
    exact hne _ hm rfl
  rw [toList_keyEdge h]
  simp [hsource, htarget, hcolumns]

end ForeignKey

def body (g : Graph) : String := unlines (settings ++ g.map Statement.text ++ ["\x7d"])

lemma source_eq (name : String) (g : Graph) : source name g = header name ++ "\n" ++ body g := by
  rw [source, List.cons_append, List.cons_append, unlines_cons, body]

def drawing (s : Schema) : Drawing where
  nodes := s.tables.map Node.ofTable
  edges := s.drawable.map fun k => (quote k.source, quote k.target)

lemma graph_eq (s : Schema) : graph s = s.tables.map tableNode ++ s.drawable.map keyEdge := rfl

lemma ids_drawing (s : Schema) : (drawing s).ids = s.names.map quote := by
  rw [Drawing.ids, drawing, List.map_map, Schema.names, List.map_map]
  rfl

section Schema

variable {s : Schema} (h : s.WellFormed)

include h

lemma drawable_sound {k : ForeignKey} (hk : k ∈ s.drawable) : k.Sound :=
  h.relationships_sound k (Schema.mem_drawable.mp hk).1

lemma cutAt_body : cutAt '\n' (body (graph s)).toList =
    settings.map String.toList ++ (s.tables.map (fun t => (tableNode t).text.toList) ++
      s.drawable.map (fun k => (keyEdge k).text.toList)) ++ [['\x7d'], []] := by
  have hlines : ∀ line ∈ settings ++ (graph s).map Statement.text ++ ["\x7d"], '\n' ∉ line.toList := by
    have hframe : ∀ line ∈ settings ++ ["\x7d"], '\n' ∉ line.toList := by decide
    intro line hline
    rw [List.mem_append, List.mem_append, graph_eq, List.map_append, List.mem_append, List.map_map,
      List.map_map] at hline
    obtain (hline | hline | hline) | hline := hline
    · exact hframe line (List.mem_append_left _ hline)
    · obtain ⟨t, ht, rfl⟩ := List.mem_map.mp hline
      exact newline_not_mem_tableNode (h.tables_sound t ht)
    · obtain ⟨k, hk, rfl⟩ := List.mem_map.mp hline
      exact newline_not_mem_keyEdge (drawable_sound h hk)
    · exact hframe line (List.mem_append_right _ hline)
  rw [body, cutAt_unlines hlines, graph_eq]
  simp only [List.map_append, List.map_map, List.append_assoc]
  rfl

lemma read_body : read (body (graph s)) = drawing s := by
  have hnodes : s.tables.filterMap (fun t => Node.inLine? (tableNode t).text.toList) =
      s.tables.map Node.ofTable := by
    rw [List.filterMap_congr fun t ht => Node.inLine?_tableNode (h.tables_sound t ht), List.filterMap_eq_map']
  have hedges : s.drawable.filterMap (fun k => endsInLine? (keyEdge k).text.toList) =
      s.drawable.map fun k => (quote k.source, quote k.target) := by
    rw [List.filterMap_congr fun k hk => endsInLine?_keyEdge (drawable_sound h hk), List.filterMap_eq_map']
  have hno_nodes : s.drawable.filterMap (fun k => Node.inLine? (keyEdge k).text.toList) = [] :=
    List.filterMap_eq_nil_iff.mpr fun k hk => Node.inLine?_keyEdge (drawable_sound h hk)
  have hno_edges : s.tables.filterMap (fun t => endsInLine? (tableNode t).text.toList) = [] :=
    List.filterMap_eq_nil_iff.mpr fun t ht => endsInLine?_tableNode (h.tables_sound t ht)
  have hsettings : (settings.map String.toList).filterMap Node.inLine? = [] ∧
      (settings.map String.toList).filterMap endsInLine? = [] := by decide
  have hend : [['\x7d'], []].filterMap Node.inLine? = [] ∧ [['\x7d'], []].filterMap endsInLine? = [] := by
    decide
  rw [read, cutAt_body h, drawing]
  simp only [List.filterMap_append, hsettings, hend, List.filterMap_map, Function.comp_def, hnodes, hedges,
    hno_nodes, hno_edges, List.nil_append, List.append_nil]

lemma quote_inj_of_mem {a b : String} (ha : a ∈ s.names) (hb : b ∈ s.names) : quote a = quote b ↔ a = b := by
  have hclean : ∀ name ∈ s.names, '"' ∉ name.toList := by
    intro name hname
    obtain ⟨t, ht, rfl⟩ := List.mem_map.mp hname
    exact (h.tables_sound t ht).name_clean.not_mem (by decide)
  exact quote_inj (hclean a ha) (hclean b hb)

lemma title?_drawing {name : String} (hname : name ∈ s.names) : (drawing s).title? (quote name) = some name := by
  have hquote : ∀ t ∈ s.tables, (quote t.name == quote name) = (t.name == name) := by
    intro t ht
    rw [Bool.eq_iff_iff, beq_iff_eq, beq_iff_eq, quote_inj_of_mem h (List.mem_map_of_mem ht) hname]
  obtain ⟨u, hu, rfl⟩ := List.mem_map.mp hname
  have hfind : s.tables.find? (fun t => quote t.name == quote u.name) = some u :=
    (List.find?_congr hquote).trans ((h.table?_iff u.name u).mpr ⟨hu, rfl⟩)
  rw [Drawing.title?, drawing, List.find?_map]
  exact congrArg _ (congrArg _ hfind)

lemma drawing_shows : (drawing s).Shows s.outline where
  ids_nodup := by
    rw [ids_drawing]
    exact List.Nodup.map_on (fun a ha b hb => (quote_inj_of_mem h ha hb).mp) h.names_nodup
  nodes_eq := by
    simp only [drawing, Schema.outline, List.map_map]
    rfl
  ends_mem := by
    intro e he
    obtain ⟨k, hk, rfl⟩ := List.mem_map.mp he
    obtain ⟨-, hsource, htarget⟩ := Schema.mem_drawable.mp hk
    rw [ids_drawing]
    exact ⟨List.mem_map_of_mem hsource, List.mem_map_of_mem htarget⟩
  edges_eq := by
    have hedges : ∀ k ∈ s.drawable, ((drawing s).title? (quote k.source), (drawing s).title? (quote k.target)) =
        (some k.source, some k.target) := by
      intro k hk
      obtain ⟨-, hsource, htarget⟩ := Schema.mem_drawable.mp hk
      rw [title?_drawing h hsource, title?_drawing h htarget]
    simp only [Schema.outline, List.map_map]
    exact (List.map_map ..).trans (List.map_congr_left hedges)

end Schema

end Dot

open Mermaid in
theorem graph_shows_render (sql : List Char) (name : String) :
    let s := Schema.ofDump sql
    ∃ body, Dot.source name (Dot.graph s) = Dot.header name ++ "\n" ++ body ∧
      (Dot.read body).nodes.map (·.title) = s.names ∧ (Dot.read body).Shows (recover (render s)) := by
  intro s
  have h : s.WellFormed := Schema.wellFormed_ofDeclarations (Dump.sound_declarations sql)
  refine ⟨Dot.body (Dot.graph s), Dot.source_eq name _, ?_, ?_⟩
  · rw [Dot.read_body h, Dot.drawing, List.map_map]
    rfl
  · rw [Dot.read_body h, recover_render h]
    exact Dot.drawing_shows h

end SchemaAtlas
