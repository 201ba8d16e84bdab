import KernelForge.Tuning.BuiltIn
import KernelForge.Yaml.Printer
import KernelForge.Yaml.Reading

/-!
Tuning tables as documents. A document overlays the built-in tables: a key that is absent keeps its value, a
list that is present replaces the built-in one, and unknown keys are passed over. The result is only accepted
without findings.
-/

namespace KernelForge.Tuning

open Yaml (Node Reading Field Tree)

/-- A row, with the line it stands on in its failure. -/
def Row.read (node : Node) : Reading (Option Row) :=
  Yaml.visit node fun
    | .scalar line tag text => do
      let some text ← Yaml.written? tag text | return none
      match Row.parse text with
      | .ok row => return some row
      | .error defect => throw (.plain s!"line {line}: {defect.message}")
    | _ => Yaml.mismatch none

/-- Reads core counts. -/
def CoreCounts.read : Node → CoreCounts → Reading CoreCounts :=
  Yaml.readRecord false
    [.of "mac" (·.mac) (fun counts value => { counts with mac := value }) Yaml.readInt64,
      .of "mobile" (·.mobile) (fun counts value => { counts with mobile := value }) Yaml.readInt64,
      .of "mobile_apple9" (·.mobileApple9) (fun counts value => { counts with mobileApple9 := value })
        Yaml.readInt64]

/-- Reads a block size. -/
def readBlock : Node → Gemm.Block → Reading Gemm.Block :=
  Yaml.readRecord false
    [.of "m" (·.m) (fun block value => { block with m := value }) Yaml.readUInt16,
      .of "n" (·.n) (fun block value => { block with n := value }) Yaml.readUInt16,
      .of "k" (·.k) (fun block value => { block with k := value }) Yaml.readUInt16]

/-- Reads the block sizes of matrix products. -/
def GemmBlocks.read : Node → GemmBlocks → Reading GemmBlocks :=
  Yaml.readRecord false
    [.of "apple9" (·.apple9) (fun blocks value => { blocks with apple9 := value }) readBlock,
      .of "small" (·.small) (fun blocks value => { blocks with small := value }) readBlock,
      .of "large_fp32" (·.largeFp32) (fun blocks value => { blocks with largeFp32 := value }) readBlock,
      .of "large_fp16" (·.largeFp16) (fun blocks value => { blocks with largeFp16 := value }) readBlock]

/-- Reads the parameters of matrix products. -/
def GemmTable.read : Node → GemmTable → Reading GemmTable :=
  Yaml.readRecord false
    [.of "large_groups_per_core" (·.largeGroupsPerCore)
        (fun table value => { table with largeGroupsPerCore := value }) Yaml.readInt64,
      .of "small_groups_per_core" (·.smallGroupsPerCore)
        (fun table value => { table with smallGroupsPerCore := value }) Yaml.readInt64,
      .of "occupancy_block" (·.occupancyBlock)
        (fun table value => { table with occupancyBlock := value }) Yaml.readUInt32,
      .of "blocks" (·.blocks) (fun table value => { table with blocks := value }) GemmBlocks.read]

/-- Reads the rows of both classes of generations. -/
def FamilyRows.read : Node → FamilyRows → Reading FamilyRows :=
  Yaml.readRecord false
    [.of "apple9" (·.apple9) (fun rows value => { rows with apple9 := value }) (Yaml.readList Row.read),
      .of "legacy" (·.legacy) (fun rows value => { rows with legacy := value }) (Yaml.readList Row.read)]

/-- Reads the rows of a pass. -/
def PassTables.read : Node → PassTables → Reading PassTables :=
  Yaml.readRecord false
    [.of "mixed" (·.mixed) (fun tables value => { tables with mixed := value }) FamilyRows.read,
      .of "full" (·.full) (fun tables value => { tables with full := value }) FamilyRows.read]

/-- Reads the rows of all passes. -/
def AttentionTables.read : Node → AttentionTables → Reading AttentionTables :=
  Yaml.readRecord false
    [.of "default" (·.default) (fun tables value => { tables with default := value }) FamilyRows.read,
      .of "forward" (·.forward) (fun tables value => { tables with forward := value }) PassTables.read,
      .of "backward_query" (·.backwardQuery)
        (fun tables value => { tables with backwardQuery := value }) PassTables.read,
      .of "backward_key_value" (·.backwardKeyValue)
        (fun tables value => { tables with backwardKeyValue := value }) PassTables.read]

/-- Reads all parameters. -/
def Tables.read : Node → Tables → Reading Tables :=
  Yaml.readRecord false
    [⟨"devices", fun node tables =>
        Yaml.readRecord false
          [.of "core_counts" (·.coreCounts) (fun held value => { held with coreCounts := value })
            CoreCounts.read] node tables⟩,
      .of "gemm" (·.gemm) (fun tables value => { tables with gemm := value }) GemmTable.read,
      .of "attention" (·.attention) (fun tables value => { tables with attention := value })
        AttentionTables.read]

/-- The built-in tables overlaid with a document. -/
def Tables.parse (text : String) : Except Failure Tables := do
  let tables ← (Yaml.readOnto Tables.read text Tables.builtIn).mapError
    (Failure.within "parsing tuning tables")
  tables.validate
  return tables

/-- A block size as a document. -/
def blockTree (block : Gemm.Block) : Tree :=
  .record [("m", .integer block.m.toNat), ("n", .integer block.n.toNat), ("k", .integer block.k.toNat)]

/-- Rows as a document. -/
def FamilyRows.tree (rows : FamilyRows) : Tree :=
  .record
    [("apple9", .list (rows.apple9.map Row.render)),
      ("legacy", .list (rows.legacy.map Row.render))]

/-- The rows of a pass as a document. -/
def PassTables.tree (tables : PassTables) : Tree :=
  .record [("mixed", tables.mixed.tree), ("full", tables.full.tree)]

/-- The tables as a document. -/
def Tables.tree (tables : Tables) : Tree :=
  .record
    [("devices", .record
        [("core_counts", .record
          [("mac", .integer tables.coreCounts.mac.toInt), ("mobile", .integer tables.coreCounts.mobile.toInt),
            ("mobile_apple9", .integer tables.coreCounts.mobileApple9.toInt)])]),
      ("gemm", .record
        [("large_groups_per_core", .integer tables.gemm.largeGroupsPerCore.toInt),
          ("small_groups_per_core", .integer tables.gemm.smallGroupsPerCore.toInt),
          ("occupancy_block", .integer tables.gemm.occupancyBlock.toNat),
          ("blocks", .record
            [("apple9", blockTree tables.gemm.blocks.apple9), ("small", blockTree tables.gemm.blocks.small),
              ("large_fp32", blockTree tables.gemm.blocks.largeFp32),
              ("large_fp16", blockTree tables.gemm.blocks.largeFp16)])]),
      ("attention", .record
        [("default", tables.attention.default.tree), ("forward", tables.attention.forward.tree),
          ("backward_query", tables.attention.backwardQuery.tree),
          ("backward_key_value", tables.attention.backwardKeyValue.tree)])]

/-- The tables as YAML. -/
def Tables.render (tables : Tables) : String :=
  tables.tree.document

end KernelForge.Tuning
