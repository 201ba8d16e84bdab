import KernelForge.Device
import KernelForge.Gemm.Block
import KernelForge.Tuning.Row

/-!
The measured parameters behind every choice of a kernel: estimates of core counts, the occupancy that a
matrix product aims at with its block sizes, and the attention tables by pass, precision and generation.
`findings` lists what the heuristics could not work with, and tables are only used without findings.
-/

namespace KernelForge.Tuning

/-- Core counts by the kind of machine. -/
structure CoreCounts where
  mac : Int64
  mobile : Int64
  mobileApple9 : Int64
  deriving DecidableEq, Repr, Inhabited

/-- The block sizes of matrix products. -/
structure GemmBlocks where
  apple9 : Gemm.Block
  small : Gemm.Block
  largeFp32 : Gemm.Block
  largeFp16 : Gemm.Block
  deriving DecidableEq, Repr, Inhabited

/-- The parameters of the choice of a block size. -/
structure GemmTable where
  /-- Threadgroups that one core should hold when an operand has 32 bits. -/
  largeGroupsPerCore : Int64
  /-- Threadgroups that one core should hold otherwise. -/
  smallGroupsPerCore : Int64
  /-- The block edge by which threadgroups are counted before a block is chosen. -/
  occupancyBlock : UInt32
  blocks : GemmBlocks
  deriving DecidableEq, Repr, Inhabited

/-- The rows for the newest generation and for the older ones. -/
structure FamilyRows where
  apple9 : List Row
  legacy : List Row
  deriving DecidableEq, Repr, Inhabited

/-- The rows for a generation. -/
def FamilyRows.forFamily (rows : FamilyRows) (family : Family) : List Row :=
  if 9 ≤ family.code then rows.apple9 else rows.legacy

/-- The rows of one pass. The mixed ones are for low precision inputs and intermediates. -/
structure PassTables where
  mixed : FamilyRows
  full : FamilyRows
  deriving DecidableEq, Repr, Inhabited

/-- The rows of all passes. -/
structure AttentionTables where
  default : FamilyRows
  forward : PassTables
  backwardQuery : PassTables
  backwardKeyValue : PassTables
  deriving DecidableEq, Repr, Inhabited

/-- All parameters. -/
structure Tables where
  coreCounts : CoreCounts
  gemm : GemmTable
  attention : AttentionTables
  deriving DecidableEq, Repr, Inhabited

/-- Something that the heuristics cannot work with. -/
inductive Finding
  | coreCounts
  | occupancy
  | block (name : String) (size : Gemm.Block)
  | emptyTable (table : String)
  | rowNotPositive (table : String) (index : Nat)
  | rowNotTiled (table : String) (index : Nat)
  | rowDescends (table : String) (index : Nat)
  deriving DecidableEq, Repr

/-- The wording of a finding. -/
def Finding.message : Finding → String
  | .coreCounts => "core counts must be positive"
  | .occupancy => "gemm occupancy parameters must be positive"
  | .block name size =>
    s!"gemm block {name} = {size.display}: dimensions must be positive multiples of 8"
  | .emptyTable table => s!"attention {table}: table is empty"
  | .rowNotPositive table index => s!"attention {table} row {index}: block dimensions must be positive"
  | .rowNotTiled table index => s!"attention {table} row {index}: block dimensions must be multiples of 8"
  | .rowDescends table index => s!"attention {table} row {index}: head dimensions must ascend"

/-- The findings of one row, after the row in front of it. -/
def rowFindings (table : String) (index : Nat) (previous : Option Row) (row : Row) : List Finding :=
  (if !row.isPositive then [.rowNotPositive table index]
    else if !row.isTiled then [.rowNotTiled table index] else []) ++
    (if previous.any (row.maxHead < ·.maxHead) then [.rowDescends table index] else [])

/-- The findings of the rows from an index on. -/
def rowsFindings (table : String) : Nat → Option Row → List Row → List Finding
  | _, _, [] => []
  | index, previous, row :: rest =>
    rowFindings table index previous row ++ rowsFindings table (index + 1) (some row) rest

/-- The findings of a table. -/
def tableFindings (table : String) (rows : List Row) : List Finding :=
  if rows.isEmpty then [.emptyTable table] else rowsFindings table 0 none rows

/-- The findings of the tables of both classes of generations. -/
def FamilyRows.findings (rows : FamilyRows) (name : String) : List Finding :=
  tableFindings (name ++ ".apple9") rows.apple9 ++ tableFindings (name ++ ".legacy") rows.legacy

/-- The findings of the tables of a pass. -/
def PassTables.findings (tables : PassTables) (name : String) : List Finding :=
  tables.mixed.findings (name ++ ".mixed") ++ tables.full.findings (name ++ ".full")

/-- Whether a block size is made of tiles of eight and not empty. -/
def blockFindings (name : String) (block : Gemm.Block) : List Finding :=
  if block.m = 0 || block.n = 0 || block.k = 0 || block.m % 8 ≠ 0 || block.n % 8 ≠ 0 || block.k % 8 ≠ 0
  then [.block name block] else []

namespace Tables

/-- Everything that the heuristics could not work with. -/
def findings (tables : Tables) : List Finding :=
  (if tables.coreCounts.mac ≤ 0 || tables.coreCounts.mobile ≤ 0 || tables.coreCounts.mobileApple9 ≤ 0
    then [.coreCounts] else []) ++
  (if tables.gemm.largeGroupsPerCore ≤ 0 || tables.gemm.smallGroupsPerCore ≤ 0 ||
      tables.gemm.occupancyBlock = 0 then [.occupancy] else []) ++
  blockFindings "apple9" tables.gemm.blocks.apple9 ++
  blockFindings "small" tables.gemm.blocks.small ++
  blockFindings "large_fp32" tables.gemm.blocks.largeFp32 ++
  blockFindings "large_fp16" tables.gemm.blocks.largeFp16 ++
  tables.attention.default.findings "default" ++
  tables.attention.forward.findings "forward" ++
  tables.attention.backwardQuery.findings "backward_query" ++
  tables.attention.backwardKeyValue.findings "backward_key_value"

/-- The failure of tables with findings: one finding a line, in the order of their wording. -/
def failure (findings : List Finding) : Failure :=
  .of .invalidDescriptor
    (Text.joined "\n" ((findings.map Finding.message).mergeSort fun first second => first ≤ second))

/-- Tables without findings. -/
def validate (tables : Tables) : Except Failure Unit :=
  if tables.findings.isEmpty then .ok () else .error (failure tables.findings)

/-- The number of cores that the occupancy rule counts with: that of the device if it is positive. -/
def cores (tables : Tables) (device : Device) : Int64 :=
  if device.cores > 0 then device.cores
  else if !device.mobile then tables.coreCounts.mac
  else if 9 ≤ device.family.code then tables.coreCounts.mobileApple9
  else tables.coreCounts.mobile

/-- The tables without any rows of a pass, so that the default rows apply. -/
def withoutPasses (tables : Tables) : Tables :=
  let none : PassTables := ⟨⟨[], []⟩, ⟨[], []⟩⟩
  { tables with
    attention :=
      { tables.attention with forward := none, backwardQuery := none, backwardKeyValue := none } }

end Tables

end KernelForge.Tuning
