import KernelForge.Archive
import KernelForge.Arithmetic
import KernelForge.Attention.Buffers
import KernelForge.Attention.Document
import KernelForge.Attention.Emulation
import KernelForge.Attention.Heuristic
import KernelForge.Attention.Kernel
import KernelForge.Attention.Operand
import KernelForge.Attention.Pass
import KernelForge.Attention.Problem
import KernelForge.Attention.Reference
import KernelForge.Attention.Source
import KernelForge.Attention.Source.Accumulation
import KernelForge.Attention.Source.Cache
import KernelForge.Attention.Source.Layout
import KernelForge.Attention.Source.OuterProduct
import KernelForge.Attention.Source.RowTerm
import KernelForge.Attention.Source.Softmax
import KernelForge.Bundle
import KernelForge.Cache
import KernelForge.Cell
import KernelForge.Command.Action
import KernelForge.Command.Configuration
import KernelForge.Command.Files
import KernelForge.Command.Host
import KernelForge.Command.Invocation
import KernelForge.Command.Verb
import KernelForge.Device
import KernelForge.Document
import KernelForge.Failure
import KernelForge.Gemm.Block
import KernelForge.Gemm.Buffers
import KernelForge.Gemm.Document
import KernelForge.Gemm.Emulation
import KernelForge.Gemm.Heuristic
import KernelForge.Gemm.Kernel
import KernelForge.Gemm.Problem
import KernelForge.Gemm.Reference
import KernelForge.Gemm.Source
import KernelForge.Gemm.Source.Accumulator
import KernelForge.Gemm.Source.Multiply
import KernelForge.Generator
import KernelForge.Half
import KernelForge.Json.Lexeme
import KernelForge.Json.Printer
import KernelForge.Json.Reading
import KernelForge.Json.Record
import KernelForge.Json.Value
import KernelForge.Log
import KernelForge.Main
import KernelForge.Manifest
import KernelForge.Pool
import KernelForge.Precision
import KernelForge.Proofs.Cell
import KernelForge.Proofs.Gemm.Edge
import KernelForge.Proofs.Gemm.Kernel
import KernelForge.Proofs.Gemm.Recurrence
import KernelForge.Random
import KernelForge.Service
import KernelForge.Shader.Header
import KernelForge.Shader.Program
import KernelForge.Shader.Source
import KernelForge.Shader.Writer
import KernelForge.Text.Base64
import KernelForge.Text.Blank
import KernelForge.Text.Bytes
import KernelForge.Text.Decimal
import KernelForge.Text.Literal
import KernelForge.Text.Lower
import KernelForge.Text.Numeral
import KernelForge.Text.Printable
import KernelForge.Text.Quoted
import KernelForge.Text.Timestamp
import KernelForge.Tuning.BuiltIn
import KernelForge.Tuning.Document
import KernelForge.Tuning.Row
import KernelForge.Tuning.Tables
import KernelForge.Verification
import KernelForge.Yaml.Composition
import KernelForge.Yaml.Cursor
import KernelForge.Yaml.Mapping
import KernelForge.Yaml.Node
import KernelForge.Yaml.Printer
import KernelForge.Yaml.Reading
import KernelForge.Yaml.Scalar
import KernelForge.Yaml.Token
import KernelForge.Yaml.TokenQueue
import KernelForge.Yaml.Value
import KernelForge.Yaml.Visit
import KernelForge.Proofs.Gemm.Tiles
import KernelForge.Proofs.Gemm.Phases
import KernelForge.Proofs.Gemm.Depth
import KernelForge.Proofs.Gemm.Product
import KernelForge.Proofs.Gemm.Rounded
import KernelForge.Proofs.Gemm.Exact
import KernelForge.Proofs.Attention.Buffers
import KernelForge.Proofs.Attention.Matrices
import KernelForge.Proofs.Attention.Formula
import KernelForge.Proofs.Attention.Forward
import KernelForge.Proofs.Attention.Backward
import KernelForge.Proofs.Cache.Listing
import KernelForge.Proofs.Gemm.Heuristic
import KernelForge.Proofs.Text.Cut
import KernelForge.Proofs.Gemm.Key
import KernelForge.Proofs.Attention.Emission
import KernelForge.Proofs.Attention.Padding
import KernelForge.Proofs.Tuning.Selection
import KernelForge.Proofs.Attention.Heuristic
import KernelForge.Proofs.Attention.Journal
import KernelForge.Proofs.Attention.Rows
import KernelForge.Proofs.Attention.Elements
import KernelForge.Proofs.Attention.Schedule
import KernelForge.Proofs.Attention.Report
import KernelForge.Proofs.Attention.Agreement
import KernelForge.Proofs.Attention.Transposition
import KernelForge.Proofs.Gemm.Outline
import KernelForge.Proofs.Gemm.Stores
import KernelForge.Proofs.Gemm.Order
import KernelForge.Proofs.Gemm.Reach
import KernelForge.Proofs.Gemm.Bounds
import KernelForge.Proofs.Attention.Fence
import KernelForge.Proofs.Bundle.Archive
import KernelForge.Proofs.Pool.Counter
import KernelForge.Proofs.Pool.InTurn
import KernelForge.Proofs.Pool.Sharing
import KernelForge.Proofs.Grid
import KernelForge.Proofs.Gemm.Derived
import KernelForge.Proofs.Attention.Derived
import KernelForge.Proofs.Gemm.Decoding
import KernelForge.Proofs.Json.Dictionary
import KernelForge.Proofs.Attention.Names
import KernelForge.Proofs.Attention.Decoding
import KernelForge.Proofs.Pool.Reporting
import KernelForge.Proofs.Gemm.Occupancy
import KernelForge.Proofs.Gemm.Frame
import KernelForge.Proofs.Precision.Denotation
import KernelForge.Proofs.Precision.Nearest
import KernelForge.Proofs.Precision.Narrowing
import KernelForge.Proofs.Precision.Projection
import KernelForge.Proofs.Text.Numeral
import KernelForge.Proofs.Device
import KernelForge.Proofs.Command.Options
import KernelForge.Proofs.Command.Session
import KernelForge.Proofs.Command.Integers
import KernelForge.Proofs.Attention.OperandText
import KernelForge.Proofs.Tuning.Document
import KernelForge.Proofs.Shader.Writer
