import KernelForge.Tuning.Tables

/-!
The built-in parameters, measured on one machine of the older generations and one of the newest.
-/

namespace KernelForge.Tuning

/-- Rows without a pass, for heads of any size. -/
def defaultRows : FamilyRows :=
  ⟨[⟨0, 16, 128, 16, []⟩], [⟨0, 32, 80, 16, []⟩]⟩

/-- Rows of the forward pass. -/
def forwardTables : PassTables where
  mixed :=
    ⟨[⟨32, 16, 128, 16, ["Q", "O"]⟩,
        ⟨96, 16, 128, 32, ["Q", "O"]⟩,
        ⟨160, 16, 128, 32, ["O"]⟩,
        ⟨224, 16, 128, 32, ["Q"]⟩,
        ⟨384, 16, 128, 32, []⟩],
      [⟨96, 32, 128, 32, ["Q", "O"]⟩,
        ⟨128, 32, 128, 32, ["Q"]⟩,
        ⟨384, 32, 128, 32, []⟩]⟩
  full :=
    ⟨[⟨8, 16, 128, 16, ["Q", "O"]⟩,
        ⟨16, 16, 64, 16, ["Q", "O"]⟩,
        ⟨48, 16, 32, 8, ["Q", "O"]⟩,
        ⟨192, 16, 64, 16, ["O"]⟩,
        ⟨384, 16, 128, 16, []⟩],
      [⟨24, 32, 64, 24, ["Q", "O"]⟩,
        ⟨32, 32, 64, 32, ["O"]⟩,
        ⟨56, 32, 32, 56, ["O"]⟩,
        ⟨384, 32, 80, 16, []⟩]⟩

/-- Rows of the backward pass of the queries. -/
def backwardQueryTables : PassTables where
  mixed :=
    ⟨[⟨80, 16, 64, 8, ["Q", "dO", "dQ"]⟩,
        ⟨192, 16, 64, 32, ["Q", "dQ"]⟩,
        ⟨384, 16, 128, 32, []⟩],
      [⟨32, 32, 64, 32, ["Q", "dQ"]⟩,
        ⟨96, 32, 64, 32, ["dQ"]⟩,
        ⟨384, 32, 64, 32, []⟩]⟩
  full :=
    ⟨[⟨16, 16, 64, 8, ["Q", "dO", "dQ"]⟩,
        ⟨32, 16, 64, 16, ["Q", "dQ"]⟩,
        ⟨192, 16, 64, 32, ["Q", "dQ"]⟩,
        ⟨384, 16, 128, 16, []⟩],
      [⟨16, 32, 64, 16, ["Q", "dQ"]⟩,
        ⟨32, 32, 64, 32, ["dQ"]⟩,
        ⟨56, 32, 64, 24, ["dQ"]⟩,
        ⟨384, 32, 80, 16, []⟩]⟩

/-- Rows of the backward pass of the keys and values. -/
def backwardKeyValueTables : PassTables where
  mixed :=
    ⟨[⟨56, 16, 64, 8, ["K", "V", "dV", "dK"]⟩,
        ⟨80, 16, 32, 16, ["V", "dV", "dK"]⟩,
        ⟨144, 16, 128, 16, ["dV", "dK"]⟩,
        ⟨224, 16, 128, 16, ["dV"]⟩,
        ⟨384, 16, 128, 32, []⟩],
      [⟨16, 32, 64, 16, ["V", "dV", "dK"]⟩,
        ⟨32, 32, 64, 32, ["dV", "dK"]⟩,
        ⟨96, 32, 64, 32, ["dV"]⟩,
        ⟨384, 32, 64, 32, []⟩]⟩
  full :=
    ⟨[⟨16, 16, 64, 8, ["K", "V", "dV", "dK"]⟩,
        ⟨32, 16, 32, 16, ["K", "V", "dV", "dK"]⟩,
        ⟨64, 16, 32, 16, ["V", "dV", "dK"]⟩,
        ⟨128, 16, 128, 16, ["dV", "dK"]⟩,
        ⟨160, 16, 128, 16, ["dV"]⟩,
        ⟨384, 16, 128, 16, []⟩],
      [⟨16, 32, 32, 16, ["V", "dV", "dK"]⟩,
        ⟨24, 32, 64, 24, ["dV", "dK"]⟩,
        ⟨56, 32, 80, 16, ["dV"]⟩,
        ⟨384, 32, 80, 16, []⟩]⟩

/-- The built-in parameters. -/
def Tables.builtIn : Tables where
  coreCounts := ⟨10, 5, 6⟩
  gemm :=
    { largeGroupsPerCore := 6, smallGroupsPerCore := 9, occupancyBlock := 48,
      blocks := ⟨⟨32, 32, 8⟩, ⟨32, 32, 32⟩, ⟨48, 48, 24⟩, ⟨48, 48, 32⟩⟩ }
  attention := ⟨defaultRows, forwardTables, backwardQueryTables, backwardKeyValueTables⟩

end KernelForge.Tuning
