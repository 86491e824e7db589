import Bandwidth.Decimal.Layout
import Bandwidth.Element.Native

/-!
# Kernel source for real devices

The kernels as a program text that the vendor's compiler translates. The element type and the group size are fixed by
definitions in front; every elementwise kernel is one statement, or three, inside the same grid-stride loop.
-/

namespace Bandwidth.Backend.Source

def opening (head : String) : String := head ++ "\x7b"

def closing (indent : String) : String := indent ++ "\x7d"

def function (signature body : List String) : List String :=
  signature ++ [opening ""] ++ body ++ [closing ""]

/-- Statements inside the grid-stride loop. -/
def overGrid (statements : List String) : List String :=
  ["    for (unsigned long long i = (unsigned long long)threadIdx.x + (unsigned long long)blockDim.x * blockIdx.x;",
    opening "         i < array_size; i += (unsigned long long)blockDim.x * gridDim.x) "] ++
  statements.map ("        " ++ ·) ++
  [closing "    "]

def multiplier : String := "    const REAL scalar = SCALAR;"

def kernels : List (List String) :=
  [function
      ["extern \"C\" __global__ void init_kernel(REAL *a, REAL *b, REAL *c,",
        "                                       REAL init_a, REAL init_b, REAL init_c,",
        "                                       unsigned long long array_size)"]
      (overGrid ["a[i] = init_a;", "b[i] = init_b;", "c[i] = init_c;"]),
    function
      ["extern \"C\" __global__ void copy_kernel(const REAL *a, REAL *c, unsigned long long array_size)"]
      (overGrid ["c[i] = a[i];"]),
    function
      ["extern \"C\" __global__ void mul_kernel(REAL *b, const REAL *c, unsigned long long array_size)"]
      (multiplier :: overGrid ["b[i] = scalar * c[i];"]),
    function
      ["extern \"C\" __global__ void add_kernel(const REAL *a, const REAL *b, REAL *c,",
        "                                      unsigned long long array_size)"]
      (overGrid ["c[i] = a[i] + b[i];"]),
    function
      ["extern \"C\" __global__ void triad_kernel(REAL *a, const REAL *b, const REAL *c,",
        "                                        unsigned long long array_size)"]
      (multiplier :: overGrid ["a[i] = b[i] + scalar * c[i];"]),
    function
      ["extern \"C\" __global__ void nstream_kernel(REAL *a, const REAL *b, const REAL *c,",
        "                                          unsigned long long array_size)"]
      (multiplier :: overGrid ["a[i] += b[i] + scalar * c[i];"]),
    function
      ["extern \"C\" __global__ void dot_kernel(const REAL *a, const REAL *b, REAL *sums,",
        "                                      unsigned long long array_size)"]
      ["    __shared__ REAL tb_sum[TBSIZE];",
        "",
        "    unsigned long long i = (unsigned long long)blockDim.x * blockIdx.x + threadIdx.x;",
        "    const unsigned int local_i = threadIdx.x;",
        "",
        "    tb_sum[local_i] = 0;",
        "    for (; i < array_size; i += (unsigned long long)blockDim.x * gridDim.x)",
        "        tb_sum[local_i] += a[i] * b[i];",
        "",
        opening "    for (unsigned int offset = blockDim.x / 2; offset > 0; offset /= 2) ",
        "        __syncthreads();",
        opening "        if (local_i < offset) ",
        "            tb_sum[local_i] += tb_sum[local_i + offset];",
        closing "        ",
        closing "    ",
        "",
        "    if (local_i == 0)",
        "        sums[blockIdx.x] = tb_sum[local_i];"]]

/-- The definitions that fix the element type, the group size and the multiplier. -/
def definitions (α : Type) [Scalar α Float] (groupSize : Nat) : List String :=
  let typeName := (Element.precision α).typeName
  let factor := Decimal.sourceLayout.write (.ofDouble (Scalar.widen (Element.factor : α)))
  [s!"#define REAL {typeName}", s!"#define TBSIZE {groupSize}", s!"#define SCALAR (({typeName})({factor}))"]

def text (α : Type) [Scalar α Float] (groupSize : Nat) : String :=
  let lines := definitions α groupSize ++ kernels.flatMap ("" :: ·)
  String.join (lines.map (· ++ "\n"))

end Bandwidth.Backend.Source
