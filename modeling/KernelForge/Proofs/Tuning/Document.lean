import KernelForge.Proofs.Gemm.Occupancy
import KernelForge.Proofs.Tuning.Row
import KernelForge.Proofs.Yaml.Held
import KernelForge.Proofs.Yaml.Kept
import KernelForge.Tuning.Document

/-!
Tuning tables are read back from what is written for them. The tree of the tables is read key by key, so whatever node
holds it gives the tables, as long as the counts are positive and the names in the rows can stand there. Validated
tables have positive counts, and rows that were read have such names, whatever document they come from.
-/

namespace KernelForge.Tuning

open Yaml (reads_int64 reads_list reads_of reads_record reads_uint16 reads_uint32)

/-! ### Rows that stand in tables -/

/-- Whether the names in rows of both classes of generations can stand in them. -/
structure FamilyRows.Named (rows : FamilyRows) : Prop where
  apple9 : ∀ row ∈ rows.apple9, row.Named
  legacy : ∀ row ∈ rows.legacy, row.Named

/-- Whether the names in the rows of a pass can stand in them. -/
structure PassTables.Named (tables : PassTables) : Prop where
  mixed : tables.mixed.Named
  full : tables.full.Named

/-- Whether the names in the rows of all passes can stand in them. -/
structure AttentionTables.Named (tables : AttentionTables) : Prop where
  default : tables.default.Named
  forward : tables.forward.Named
  backwardQuery : tables.backwardQuery.Named
  backwardKeyValue : tables.backwardKeyValue.Named

/-! ### Tables that are written -/

theorem reads_coreCounts {counts : CoreCounts} (mac : 0 < counts.mac) (mobile : 0 < counts.mobile)
    (mobileApple9 : 0 < counts.mobileApple9) (held : CoreCounts) :
    (Yaml.Tree.record [("mac", .integer counts.mac.toInt), ("mobile", .integer counts.mobile.toInt),
      ("mobile_apple9", .integer counts.mobileApple9.toInt)]).Reads CoreCounts.read held counts := by
  refine reads_record ?_ (by simp)
  refine .cons rfl (reads_of (reads_int64 mac _)) ?_
  refine .cons rfl (reads_of (reads_int64 mobile _)) ?_
  exact .cons rfl (reads_of (reads_int64 mobileApple9 _)) (.nil _)

theorem reads_block (block held : Gemm.Block) : (blockTree block).Reads readBlock held block := by
  refine reads_record ?_ (by simp)
  refine .cons rfl (reads_of (reads_uint16 block.m _)) ?_
  refine .cons rfl (reads_of (reads_uint16 block.n _)) ?_
  exact .cons rfl (reads_of (reads_uint16 block.k _)) (.nil _)

theorem reads_gemmBlocks (blocks held : GemmBlocks) :
    (Yaml.Tree.record [("apple9", blockTree blocks.apple9), ("small", blockTree blocks.small),
      ("large_fp32", blockTree blocks.largeFp32), ("large_fp16", blockTree blocks.largeFp16)]).Reads
      GemmBlocks.read held blocks := by
  refine reads_record ?_ (by simp)
  refine .cons rfl (reads_of (reads_block blocks.apple9 _)) ?_
  refine .cons rfl (reads_of (reads_block blocks.small _)) ?_
  refine .cons rfl (reads_of (reads_block blocks.largeFp32 _)) ?_
  exact .cons rfl (reads_of (reads_block blocks.largeFp16 _)) (.nil _)

/-- Each row is read from its written form. -/
theorem reads_rows {rows : List Row} (named : ∀ row ∈ rows, row.Named) (held : List Row) :
    (Yaml.Tree.list (rows.map Row.render)).Reads (Yaml.readList Row.read) held rows := by
  refine reads_list (fun row member line => ?_) held
  have read : Row.parse row.render = .ok row := (Row.parse_render_iff row).mpr (named row member)
  refine Yaml.yields_visit rfl ((Yaml.yields_written row.render).bind ?_)
  simp only [read]
  exact Yaml.yields_pure _

theorem FamilyRows.Named.reads {rows : FamilyRows} (named : rows.Named) (held : FamilyRows) :
    rows.tree.Reads FamilyRows.read held rows := by
  refine reads_record ?_ (by simp)
  refine .cons rfl (reads_of (reads_rows named.apple9 _)) ?_
  exact .cons rfl (reads_of (reads_rows named.legacy _)) (.nil _)

theorem PassTables.Named.reads {tables : PassTables} (named : tables.Named) (held : PassTables) :
    tables.tree.Reads PassTables.read held tables := by
  refine reads_record ?_ (by simp)
  refine .cons rfl (reads_of (named.mixed.reads _)) ?_
  exact .cons rfl (reads_of (named.full.reads _)) (.nil _)

theorem AttentionTables.Named.reads {tables : AttentionTables} (named : tables.Named) (held : AttentionTables) :
    (Yaml.Tree.record [("default", tables.default.tree), ("forward", tables.forward.tree),
      ("backward_query", tables.backwardQuery.tree), ("backward_key_value", tables.backwardKeyValue.tree)]).Reads
      AttentionTables.read held tables := by
  refine reads_record ?_ (by simp)
  refine .cons rfl (reads_of (named.default.reads _)) ?_
  refine .cons rfl (reads_of (named.forward.reads _)) ?_
  refine .cons rfl (reads_of (named.backwardQuery.reads _)) ?_
  exact .cons rfl (reads_of (named.backwardKeyValue.reads _)) (.nil _)

theorem reads_gemmTable {table : GemmTable} (large : 0 < table.largeGroupsPerCore)
    (small : 0 < table.smallGroupsPerCore) (held : GemmTable) :
    (Yaml.Tree.record
      [("large_groups_per_core", .integer table.largeGroupsPerCore.toInt),
        ("small_groups_per_core", .integer table.smallGroupsPerCore.toInt),
        ("occupancy_block", .integer table.occupancyBlock.toNat),
        ("blocks", .record
          [("apple9", blockTree table.blocks.apple9), ("small", blockTree table.blocks.small),
            ("large_fp32", blockTree table.blocks.largeFp32),
            ("large_fp16", blockTree table.blocks.largeFp16)])]).Reads GemmTable.read held table := by
  refine reads_record ?_ (by simp)
  refine .cons rfl (reads_of (reads_int64 large _)) ?_
  refine .cons rfl (reads_of (reads_int64 small _)) ?_
  refine .cons rfl (reads_of (reads_uint32 table.occupancyBlock _)) ?_
  exact .cons rfl (reads_of (reads_gemmBlocks table.blocks _)) (.nil _)

/-- Validated tables are read from whatever node holds them. -/
theorem Tables.reads {tables : Tables} (valid : tables.validate = .ok ()) (named : tables.attention.Named)
    (held : Tables) : tables.tree.Reads Tables.read held tables := by
  have positive := Gemm.positiveOccupancy_of_validate valid
  refine reads_record ?_ (by simp)
  have counts (held : CoreCounts) := reads_coreCounts positive.mac positive.mobile positive.mobileApple9 held
  refine .cons rfl (reads_record (.cons rfl (reads_of (counts _)) (.nil _)) (by simp)) ?_
  refine .cons rfl (reads_of (reads_gemmTable positive.largeGroups positive.smallGroups _)) ?_
  exact .cons rfl (reads_of (named.reads _)) (.nil _)

/-! ### Tables that are read -/

open Yaml (Gives Keeps keeps_of keeps_readList keeps_readRecord)

theorem gives_row (node : Yaml.Node) : Gives (Row.read node) (∀ row ∈ ·, row.Named) := by
  refine Yaml.gives_visit fun node => ?_
  split
  · refine Yaml.gives_bind fun written => ?_
    split
    · split
      · rename_i row read
        refine Yaml.gives_pure fun found same => ?_
        cases same
        exact Row.named_of_parse read
      · exact Yaml.gives_throw _
    · exact Yaml.gives_pure (by simp)
  · exact Yaml.gives_mismatch (by simp)

theorem keeps_rows : Keeps (Yaml.readList Row.read) (∀ row ∈ ·, Row.Named row) :=
  keeps_readList gives_row

theorem FamilyRows.keeps_read : Keeps FamilyRows.read FamilyRows.Named := by
  refine keeps_readRecord ?_
  simp only [List.forall_mem_cons, List.not_mem_nil, false_implies, implies_true, and_true]
  exact ⟨keeps_of keeps_rows (fun _ held => held.apple9) fun _ _ held read => ⟨read, held.legacy⟩,
    keeps_of keeps_rows (fun _ held => held.legacy) fun _ _ held read => ⟨held.apple9, read⟩⟩

theorem PassTables.keeps_read : Keeps PassTables.read PassTables.Named := by
  refine keeps_readRecord ?_
  simp only [List.forall_mem_cons, List.not_mem_nil, false_implies, implies_true, and_true]
  exact ⟨keeps_of FamilyRows.keeps_read (fun _ held => held.mixed) fun _ _ held read => ⟨read, held.full⟩,
    keeps_of FamilyRows.keeps_read (fun _ held => held.full) fun _ _ held read => ⟨held.mixed, read⟩⟩

theorem AttentionTables.keeps_read : Keeps AttentionTables.read AttentionTables.Named := by
  refine keeps_readRecord ?_
  simp only [List.forall_mem_cons, List.not_mem_nil, false_implies, implies_true, and_true]
  refine ⟨keeps_of FamilyRows.keeps_read (fun _ held => held.default) ?_,
    keeps_of PassTables.keeps_read (fun _ held => held.forward) ?_,
    keeps_of PassTables.keeps_read (fun _ held => held.backwardQuery) ?_,
    keeps_of PassTables.keeps_read (fun _ held => held.backwardKeyValue) ?_⟩
  · exact fun _ _ held read => ⟨read, held.forward, held.backwardQuery, held.backwardKeyValue⟩
  · exact fun _ _ held read => ⟨held.default, read, held.backwardQuery, held.backwardKeyValue⟩
  · exact fun _ _ held read => ⟨held.default, held.forward, read, held.backwardKeyValue⟩
  · exact fun _ _ held read => ⟨held.default, held.forward, held.backwardQuery, read⟩

theorem Tables.keeps_read : Keeps Tables.read fun tables => tables.attention.Named := by
  have counts : Keeps CoreCounts.read fun _ => True := fun _ _ _ _ _ _ _ _ => trivial
  have gemm : Keeps GemmTable.read fun _ => True := fun _ _ _ _ _ _ _ _ => trivial
  refine keeps_readRecord ?_
  simp only [List.forall_mem_cons, List.not_mem_nil, false_implies, implies_true, and_true]
  refine ⟨keeps_readRecord ?_, keeps_of gemm (fun _ _ => trivial) fun _ _ held _ => held,
    keeps_of AttentionTables.keeps_read (fun _ held => held) fun _ _ _ read => read⟩
  simp only [List.forall_mem_cons, List.not_mem_nil, false_implies, implies_true, and_true]
  exact keeps_of counts (fun _ _ => trivial) fun _ _ held _ => held

theorem named_builtIn : Tables.builtIn.attention.Named := by
  constructor
  · constructor <;> decide +kernel
  all_goals
    constructor
    · constructor <;> decide +kernel
    · constructor <;> decide +kernel

/-- Tables that are read are validated, and names that can stand in rows are in them. -/
theorem Tables.of_parse {text : String} {tables : Tables} (read : Tables.parse text = .ok tables) :
    tables.validate = .ok () ∧ tables.attention.Named := by
  obtain ⟨found, done, rest⟩ := bind_ok_iff.mp read
  obtain ⟨⟨⟩, valid, same⟩ := bind_ok_iff.mp rest
  cases same
  exact ⟨valid, Yaml.good_of_readOnto Tables.keeps_read named_builtIn (mapError_ok.mp done)⟩

theorem Tables.parse_render {tables : Tables} (valid : tables.validate = .ok ()) (named : tables.attention.Named)
    (returns : tables.tree.Returns) : Tables.parse tables.render = .ok tables := by
  have read : Yaml.readOnto Tables.read tables.render Tables.builtIn = .ok tables :=
    Yaml.readOnto_document returns (Tables.reads valid named _)
  rw [Tables.parse, read, Except.mapError, ok_bind, valid, ok_bind]
  rfl

/-- Rows come back from what is written for them: those that were read, and just those with names that can stand in a
    row. So validated tables of such rows come back from their document, if what stands in it is found again. -/
theorem parse_of_render :
    (∀ text row, Row.parse text = .ok row → Row.parse row.render = .ok row) ∧
      (∀ row : Row, Row.parse row.render = .ok row ↔ row.Named) ∧
      (∀ tables : Tables, tables.validate = .ok () →
        (tables.attention.Named ∨ ∃ text, Tables.parse text = .ok tables) →
        tables.tree.Returns → Tables.parse tables.render = .ok tables) := by
  refine ⟨fun text row read => (Row.parse_render_iff row).mpr (Row.named_of_parse read), Row.parse_render_iff, ?_⟩
  rintro tables valid (named | ⟨text, read⟩) returns
  · exact Tables.parse_render valid named returns
  · exact Tables.parse_render valid (Tables.of_parse read).2 returns

/-- A row with names and one without, in tables of one row. -/
def smallRows : FamilyRows := ⟨[⟨64, 16, 64, 16, ["Q", "O"]⟩], [⟨0, 8, 8, 8, []⟩]⟩

/-- The same rows for both precisions. -/
def smallPass : PassTables := ⟨smallRows, smallRows⟩

/-- The built-in parameters with the same rows for all passes. -/
def smallTables : Tables :=
  { Tables.builtIn with attention := ⟨smallRows, smallPass, smallPass, smallPass⟩ }

/-- The lines that are written for a pass, with how deep they stand. -/
def smallPassLines : List (Nat × String) :=
  [(2, "mixed:"),
    (3, "apple9:"),
    (4, "- '| 64 | 16 | 64 | 16 | Q, O |'"),
    (3, "legacy:"),
    (4, "- '| 0 | 8 | 8 | 8 |  |'"),
    (2, "full:"),
    (3, "apple9:"),
    (4, "- '| 64 | 16 | 64 | 16 | Q, O |'"),
    (3, "legacy:"),
    (4, "- '| 0 | 8 | 8 | 8 |  |'")]

/-- The lines that are written for the tables. The name of one extent of a block would be read as a truth value. -/
def smallLines : List (Nat × String) :=
  [(0, "devices:"),
    (1, "core_counts:"),
    (2, "mac: 10"),
    (2, "mobile: 5"),
    (2, "mobile_apple9: 6"),
    (0, "gemm:"),
    (1, "large_groups_per_core: 6"),
    (1, "small_groups_per_core: 9"),
    (1, "occupancy_block: 48"),
    (1, "blocks:"),
    (2, "apple9:"),
    (3, "m: 32"),
    (3, "\"n\": 32"),
    (3, "k: 8"),
    (2, "small:"),
    (3, "m: 32"),
    (3, "\"n\": 32"),
    (3, "k: 32"),
    (2, "large_fp32:"),
    (3, "m: 48"),
    (3, "\"n\": 48"),
    (3, "k: 24"),
    (2, "large_fp16:"),
    (3, "m: 48"),
    (3, "\"n\": 48"),
    (3, "k: 32"),
    (0, "attention:"),
    (1, "default:"),
    (2, "apple9:"),
    (3, "- '| 64 | 16 | 64 | 16 | Q, O |'"),
    (2, "legacy:"),
    (3, "- '| 0 | 8 | 8 | 8 |  |'"),
    (1, "forward:")] ++ smallPassLines ++
  [(1, "backward_query:")] ++ smallPassLines ++
  [(1, "backward_key_value:")] ++ smallPassLines

set_option maxRecDepth 8000 in
theorem toList_smallTables :
    smallTables.tree.document.toList =
      smallLines.flatMap fun (depth, line) => Yaml.blanks (4 * depth) ++ line.toList ++ ['\n'] := by
  simp only [Tables.tree, FamilyRows.tree, PassTables.tree, blockTree, Yaml.Tree.document, Yaml.writeEntries,
    Yaml.Tree.write, Yaml.writeItems, Yaml.margin, smallTables, smallPass, smallRows, List.map_cons, List.map_nil,
    String.join_cons, String.join_nil, String.toList_append, String.toList_ofList, List.append_assoc]
  decide +kernel

theorem smallTables_return : smallTables.tree.Returns :=
  Yaml.Tree.returns_of_toList toList_smallTables (by decide +kernel)

theorem parse_of_render_small :
    (Row.parse " 64|16 |64|16| O , ,Q" = .ok ⟨64, 16, 64, 16, ["O", "Q"]⟩ ∧
      Row.parse "| 64 | 16 | 64 | 16 | O, Q |" = .ok ⟨64, 16, 64, 16, ["O", "Q"]⟩) ∧
      smallTables.validate = .ok () ∧ smallTables.attention.Named ∧ smallTables.tree.Returns ∧
      Tables.parse smallTables.render = .ok smallTables := by
  obtain ⟨rows, -, tables⟩ := parse_of_render
  have read : Row.parse " 64|16 |64|16| O , ,Q" = .ok ⟨64, 16, 64, 16, ["O", "Q"]⟩ := by decide +kernel
  have written : Row.render ⟨64, 16, 64, 16, ["O", "Q"]⟩ = "| 64 | 16 | 64 | 16 | O, Q |" := by decide +kernel
  have valid : smallTables.validate = .ok () := by decide +kernel
  have named : smallTables.attention.Named := by
    have each : smallRows.Named := by constructor <;> decide +kernel
    exact ⟨each, ⟨each, each⟩, ⟨each, each⟩, ⟨each, each⟩⟩
  refine ⟨⟨read, ?_⟩, valid, named, smallTables_return, tables smallTables valid (.inl named) smallTables_return⟩
  rw [← written]
  exact rows _ _ read

end KernelForge.Tuning
