import KernelForge.Shader.Source

/-!
The two headers in front of every kernel. The first declares asynchronous copies of rectangles between
device and threadgroup memory; the second declares tiles of 8 by 8 elements in registers, with loads, stores
and the multiplication that adds to a tile. The members that move tiles exist for each direction, each memory
and with or without the widening of the shorter format, and are generated.

A copy into threadgroup memory that nobody waits for can hang the oldest supported GPU, so a kernel that
issues one passes a barrier and reads from the region before it ends.
-/

namespace KernelForge.Shader

/-- Statements indented by two blanks a level, as hand-written parts of the headers are. -/
def handwritten (depth : Nat) (statements : List Stmt) : List String :=
  linesAll "  " depth statements

/-- A region between the lines that open and close it. -/
def between (opening : List String) (inner : List String) (closing : List String) :
    List String :=
  opening ++ inner ++ closing

/-- The lines that keep a header from being read twice. -/
def guarded (title mark : String) (inner : List String) : List String :=
  between
    ["// -*- Metal -*-", title, "", "#ifndef " ++ mark, "#define " ++ mark, ""]
    inner
    ["", "#endif // " ++ mark]

/-- The namespace of the shading language, opened for internal declarations. -/
def metalNamespace (inner : List String) : List String :=
  between
    ["#pragma METAL internals : enable", "namespace metal", "\x7b"]
    inner
    ["\x7d // namespace metal", "#pragma METAL internals : disable"]

/-- A declaration whose arguments take lines of their own. -/
def spread (opening : String) (arguments : List String) : List Stmt :=
  .line opening :: [.indent (arguments.map .line)]

/-- The declaration of one direction of the copy primitive. -/
def copyPrimitive (target origin mark : String) : List Stmt :=
  [.line "thread _simdgroup_event_t*"] ++
    spread "__metal_simdgroup_async_copy_2d("
      ["ulong, ulong,", target ++ " void *, ulong, ulong, ulong2,",
        "const " ++ origin ++ " void *, ulong, ulong, ulong2,", "long2, int)",
        "__asm(\"air.simdgroup_async_copy_2d." ++ mark ++ "\");"]

/-- The copy member for one direction. Only a copy into threadgroup memory fills what lies outside of the
    source, so only it has a clamp mode. -/
def copyMember (target origin : AddressSpace) : List Stmt :=
  let clamps := target = .threadgroup
  [.line "template <typename T>"] ++
    spread "METAL_FUNC void async_copy("
      [target.keyword ++ " T *dst,", target.indexType ++ " dst_elements_per_row,",
        "ushort2 dst_tile_dimensions,", "const " ++ origin.keyword ++ " T *src,",
        origin.indexType ++ " src_elements_per_row,", "ushort2 src_tile_dimensions,"] ++
    (if clamps then
      [.indent [.line "bool transpose_matrix = false,", .line "simdgroup_async_copy_clamp_mode clamp_mode =",
        .indent [.line "simdgroup_async_copy_clamp_mode::clamp_to_zero"]]]
    else [.indent [.line "bool transpose_matrix = false"]]) ++
    [.block ") thread"
      ([.cond "transpose_matrix"
        [.line "src_tile_dimensions = src_tile_dimensions.yx;",
          .line "dst_tile_dimensions = dst_tile_dimensions.yx;"]] ++
        spread "event = __metal_simdgroup_async_copy_2d("
          ["sizeof(T),", "alignof(T),",
            "reinterpret_cast<" ++ target.keyword ++ " void *>(dst),",
            target.indexType ++ "(dst_elements_per_row),", "1,", "ulong2(dst_tile_dimensions),",
            "reinterpret_cast<const " ++ origin.keyword ++ " void *>(src),",
            origin.indexType ++ "(src_elements_per_row),", "1,", "ulong2(src_tile_dimensions),",
            "long2(0),", if clamps then "static_cast<int>(clamp_mode));" else "0);"])]

/-- The declarations of the copy primitives. -/
def copyPrimitives : List Stmt :=
  List.flatten
    [[.comment "Opaque handle produced by the AIR async copy intrinsics.",
        .line "struct _simdgroup_event_t;", .blank,
        .comment "air.simdgroup_async_copy_2d, device -> threadgroup."],
      copyPrimitive "threadgroup" "device" "p3i8.p1i8",
      [.blank, .comment "air.simdgroup_async_copy_2d, threadgroup -> device."],
      copyPrimitive "device" "threadgroup" "p1i8.p3i8",
      [.blank, .comment "air.wait_simdgroup_events"],
      spread "void __metal_wait_simdgroup_events("
        ["int, thread _simdgroup_event_t**)", "__asm(\"air.wait_simdgroup_events\");"],
      [.blank]]

/-- What opens the declaration of an event. -/
def eventOpening : List Stmt :=
  [.line "enum class simdgroup_async_copy_clamp_mode \x7b",
    .indent [.line "clamp_to_zero = 0,", .line "clamp_to_edge = 1"], .line "\x7d;", .blank,
    .line "struct simdgroup_event \x7b"]

/-- The members of an event. -/
def eventMembers : List Stmt :=
  List.flatten
    [[.line "METAL_FUNC simdgroup_event() thread \x7b\x7d", .blank,
        .comment "Copies src_tile_dimensions elements into a dst_tile_dimensions",
        .comment "region. Destination elements outside the source tile are filled",
        .comment "according to clamp_mode."],
      copyMember .threadgroup .device, [.blank], copyMember .device .threadgroup,
      [.blank,
        .block "METAL_FUNC static void wait(int count, thread simdgroup_event *events)"
          (spread "__metal_wait_simdgroup_events("
            ["count, reinterpret_cast<thread _simdgroup_event_t**>(events));"]), .blank]]

/-- What closes the declaration of an event. -/
def eventClosing : List Stmt :=
  [.line "private:", .indent [.line "thread _simdgroup_event_t* event;"], .line "\x7d;"]

/-- The header of asynchronous copies, line by line. -/
def eventLines : List String :=
  guarded "//===-- metal_simdgroup_event ---------------------------------------------===//"
    "__METAL_SIMDGROUP_EVENT"
    (handwritten 0 copyPrimitives ++
      metalNamespace
        (handwritten 1 eventOpening ++ handwritten 2 eventMembers ++ handwritten 1 eventClosing))

/-- The header of asynchronous copies. -/
def eventHeader : String := unlines eventLines

/-- The column and the row of the first of the two elements that a lane owns in a tile of 8 by 8; the
    second is its right neighbour. Lanes lie in Morton order. Lane numbers outside of a SIMD group follow the
    same formula, with division toward zero. -/
def morton (lane : Int) : Int × Int :=
  let quad := lane.tdiv 4
  let pair := if quad.emod 4 / 2 = 1 then 2 else 0
  (pair * 2 + lane.tmod 2 * 2, quad.tdiv 4 * 4 + (lane.tdiv 2).tmod 4)

/-- A member that moves one tile. -/
structure TileAccess where
  store : Bool
  space : AddressSpace
  /-- The memory has the shorter format, whose 16 bits go into the upper half of a register. -/
  bfloat : Bool

namespace TileAccess

/-- The accesses in the order of their declarations. -/
def all : List TileAccess :=
  [false, true].flatMap fun store =>
    AddressSpace.all.flatMap fun space => [false, true].map fun bfloat => ⟨store, space, bfloat⟩

/-- The name of the member. -/
def name (access : TileAccess) : String :=
  (if access.store then "store" else "load") ++ (if access.bfloat then "_bfloat" else "")

/-- The head of the member. -/
def signature (access : TileAccess) : String :=
  let scalar := if access.bfloat then "bfloat" else "U"
  let space := access.space.keyword
  let pointer := if access.store then s!"{space} {scalar} *dst" else s!"const {space} {scalar} *src"
  let arguments := Text.joined ", "
    [pointer, access.space.indexType ++ " elements_per_row", "ushort2 matrix_origin",
      "bool transpose_matrix = false"]
  s!"METAL_FUNC void {access.name}({arguments})"

/-- The offset of the element some columns to the right of the origin. -/
def address (access : TileAccess) (transposed : Bool) (offset : Nat) : String :=
  let index := access.space.indexType
  let x := s!"{index}(matrix_origin.x + {offset})"
  let y := s!"{index}(matrix_origin.y)"
  if transposed then s!"{x} * elements_per_row + {y}" else s!"{y} * elements_per_row + {x}"

/-- Moves the two elements one by one, which any stride allows. -/
def separately (access : TileAccess) (transposed : Bool) : List Stmt :=
  [0, 1].map (fun lane =>
    .line s!"{access.space.indexType} address{lane} = {access.address transposed lane};") ++
  match access.store, access.bfloat with
  | false, true =>
    [.line "bfloat memoryForm0 = src[address0];", .line "bfloat memoryForm1 = src[address1];", .blank,
      .line "bfloat4 registerForm = *(thread bfloat4*)(thread_elements());",
      .line "registerForm[1] = memoryForm0;", .line "registerForm[3] = memoryForm1;",
      .line "((thread bfloat4*)thread_elements())[0] = registerForm;"]
  | false, false =>
    [.line "U memoryForm0 = src[address0];", .line "U memoryForm1 = src[address1];",
      .line "((thread T*)thread_elements())[0] = T(memoryForm0);",
      .line "((thread T*)thread_elements())[1] = T(memoryForm1);"]
  | true, true =>
    [.line "bfloat4 registerForm = *(thread bfloat4*)(thread_elements());",
      .line "registerForm[2] = registerForm[1];", .line "dst[address0] = registerForm[2];",
      .line "dst[address1] = registerForm[3];"]
  | true, false =>
    [.line "T registerForm0 = ((thread T*)thread_elements())[0];",
      .line "T registerForm1 = ((thread T*)thread_elements())[1];",
      .line "dst[address0] = U(registerForm0);", .line "dst[address1] = U(registerForm1);"]

/-- Moves both elements at once, which needs an even stride. -/
def together (access : TileAccess) : List Stmt :=
  let space := access.space.keyword
  .line s!"auto combinedAddress = {access.address false 0};" ::
  match access.store, access.bfloat with
  | false, true =>
    [.line s!"bfloat2 memoryForm = *(const {space} packed_bfloat2*)(src + combinedAddress);", .blank,
      .line "bfloat4 registerForm = *(thread bfloat4*)(thread_elements());",
      .line "((thread float*)&registerForm)[1] = *(thread float*)(&memoryForm);",
      .line "((thread bfloat*)&registerForm)[1] = memoryForm[0];",
      .line "((thread bfloat4*)thread_elements())[0] = registerForm;"]
  | false, false =>
    [.line s!"vec<U, 2> memoryForm = *(const {space} vec<U, 2>*)(src + combinedAddress);",
      .line "*(thread_elements()) = vec<T, 2>(memoryForm);"]
  | true, true =>
    [.line "bfloat4 registerForm = *(thread bfloat4*)(thread_elements());",
      .line "registerForm[2] = registerForm[1];",
      .line "float memoryForm = ((thread float*)&registerForm)[1];",
      .line s!"*({space} float*)(dst + combinedAddress) = memoryForm;"]
  | true, false =>
    [.line "vec<T, 2> registerForm = *(thread_elements());",
      .line s!"*({space} vec<U, 2>*)(dst + combinedAddress) = vec<U, 2>(registerForm);"]

/-- The member: a transposed tile moves element by element, and so does one whose stride may be odd. -/
def member (access : TileAccess) : List Stmt :=
  [if access.bfloat then .comment "T must be float." else .line "template <typename U>",
    .block access.signature
      (.line "if (transpose_matrix) \x7b" :: .indent (access.separately true) ::
        (if !access.bfloat then
          [.line "\x7d else if (elements_per_row % 2 != 0) \x7b", .indent (access.separately false),
            .line "\x7d else \x7b", .indent access.together]
        else
          [.line "\x7d else \x7b",
            .indent (if access.store then access.separately false else access.together)]) ++
        [.line "\x7d"])]

end TileAccess

/-- The pointer to a tile inside a matrix, for one memory. -/
def offsetMember (space : AddressSpace) : Stmt :=
  let index := space.indexType
  let element (row column : String) :=
    let start := row ++ " * elements_per_row"
    let start := if space = .device then s!"ulong({start})" else start
    s!"return src + {start} + {column};"
  .block
    (s!"METAL_FUNC static {space.keyword} T* apply_offset({space.keyword} T *src, " ++
      s!"{index} elements_per_row, {index}2 matrix_origin, bool transpose_matrix = false)")
    [.condElse "transpose_matrix" [.line (element "matrix_origin.x" "matrix_origin.y")]
      [.line (element "matrix_origin.y" "matrix_origin.x")]]

/-- The header of register tiles, line by line. The generated members are indented by tabs. -/
def storageLines : List String :=
  guarded "//===-- metal_simdgroup_matrix_storage ------------------------------------===//"
    "__METAL_SIMDGROUP_MATRIX_STORAGE"
    (handwritten 0
      [.comment "Position of this lane's first element within an 8x8 tile (x = column,",
        .comment "y = row). Lanes are laid out in Morton order so that each quad touches a",
        .comment "contiguous 2x4 patch.",
        .block "METAL_FUNC static ushort2 morton_order(ushort thread_index_in_simdgroup)"
          [.line "ushort lane_id = thread_index_in_simdgroup;", .line "ushort quad_id = lane_id / 4;",
            .blank, .line "ushort M_in_simd = (quad_id / 4) * 4 + (lane_id / 2) % 4;",
            .line "ushort N_in_simd = (quad_id & 2) * 2 + (lane_id % 2) * 2;",
            .line "return ushort2(N_in_simd, M_in_simd);"],
        .blank] ++
      metalNamespace
        (handwritten 1 [.line "template <typename T>", .line "struct simdgroup_matrix_storage \x7b"] ++
          handwritten 2
            [.line "typedef vec<T, 64> storage_type;", .blank, .line "storage_type t;", .blank,
              .block "METAL_FUNC thread vec<T, 2>* thread_elements() thread"
                [.line "return reinterpret_cast<thread vec<T, 2>*>(&t);"],
              .blank, .line "METAL_FUNC simdgroup_matrix_storage() thread = default;", .blank,
              .block "METAL_FUNC simdgroup_matrix_storage(vec<T, 2> thread_elements) thread"
                [.line "*(this->thread_elements()) = thread_elements;"],
              .blank, offsetMember .device, .blank, offsetMember .threadgroup, .blank] ++
          linesAll "\t" 2 (TileAccess.all.flatMap fun access => access.member ++ [.blank]) ++
          handwritten 2
            [.line "template <typename U, typename V>",
              .block
                ("METAL_FUNC void multiply(simdgroup_matrix_storage<U> a, " ++
                  "simdgroup_matrix_storage<V> b, bool accumulate = true)")
                [.cond "!accumulate" [.line "*(thread_elements()) = vec<T, 2>(0);"],
                  .line ("t = __metal_simdgroup_matrix_8x8_multiply_accumulate(a.t, b.t, t, " ++
                    "typename simdgroup_matrix_storage<T>::storage_type());")]] ++
          handwritten 1 [.line "\x7d;"]))

/-- The header of register tiles. -/
def storageHeader : String := unlines storageLines

end KernelForge.Shader
