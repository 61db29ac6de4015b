import CilRecovery.Registry.Rule

/-!
# The standard signatures

The shapes of the handlers that the virtual machine generates for each operation, in the order in
which they are tried.  Four kinds of evidence tell operations apart:

* the opcodes of the whole handler, or of a window of it, or of a helper that it calls;
* for operations that differ in overflow checks or signedness, the boolean literals that the handler
  passes to a helper they share;
* for operations that differ in a small constant, the opcode that loads the constant: each such
  family is one template with the hole `literal`, filled from a table of its members;
* for operations that differ in the width of an index, the return type of the method that reads it.
-/

namespace CilRecovery

/-! ## Families by a literal -/

/-- The name of the hole that stands for the instruction that loads a literal. -/
def literalHole : String := "literal"

/-- One filled template for each entry of the table whose value has an opcode of its own. -/
def literalFamily {α : Type} (base : Template) (table : List (α × Int)) : List (α × Template) :=
  table.filterMap fun (label, value) =>
    (Opcode.shorthand? value).map fun o => (label, base.fill literalHole o)

/-! ## Index widths -/

/-- What the reader of a full index returns. -/
def fullIndexType : String := "System.UInt16"

/-- What the reader of a short index returns. -/
def shortIndexType : String := "System.Byte"

namespace Shape

/-! ## Shapes: arithmetic -/

def and : Template := .exact [.ldloc_s, .ldloc_s, .and, .callvirt, .ldloc_0, .ret]

def or : Template := .exact [.ldloc_s, .ldloc_s, .or, .callvirt, .ldloc_0, .ret]

def xor : Template := .exact [.ldloc_s, .ldloc_s, .xor, .callvirt, .ldloc_0, .ret]

/-- Left shift by a masked amount. -/
def shl : Template := .exact
  [.ldloc_s, .ldloc_s, .ldc_i4_s, .and, .shl, .stloc_s, .newobj, .stloc_0, .ldloc_0, .ldloc_s,
   .callvirt, .ldloc_0, .ret]

def shrHelper : Template := .exact [.ldc_i4_s, .and, .shr, .callvirt, .ldloc_0, .ret]

def divHelper : Template := .exact [.ldloc_s, .ldloc_s, .div, .callvirt, .ldloc_0, .ret]

def remHelper : Template := .exact [.ldloc_s, .ldloc_s, .rem, .callvirt, .ldloc_0, .ret]

def addHelper : Template := .exact
  [.ldloc_0, .ldloc_1, .add, .stloc_2, .newobj, .stloc_3, .ldloc_3, .ldloc_2, .callvirt, .ldloc_3,
   .ret]

def subHelper : Template := .exact
  [.ldloc_0, .ldloc_1, .sub, .stloc_2, .newobj, .stloc_3, .ldloc_3, .ldloc_2, .callvirt, .ldloc_3,
   .ret]

/-! ## Shapes: comparison -/

def lessThanHelper : Template := .exact
  [.ldloc_s, .ldloc_s, .blt_s, .ldloc_s, .call, .brtrue_s, .ldloc_s, .call, .br_s]

def greaterThanHelper : Template := .exact
  [.ldarg_0, .castclass, .callvirt, .ldarg_1, .castclass, .callvirt, .cgt_un, .stloc_0]

/-- The end of a handler that pushes the outcome of a comparison. -/
def compareTail : Template := .exact
  [.call, .brtrue_s, .ldc_i4_0, .br_s, .ldc_i4_1, .callvirt, .ldloc_2, .call, .ret]

/-- A branch that is not taken if the comparison holds. -/
def bgeHeader : Template := .exact [.call, .brtrue_s, .ldarg_1, .castclass]

/-- A branch that is taken if the comparison holds. -/
def bltHeader : Template := .exact [.call, .brfalse_s, .ldarg_1, .castclass]

/-- The check that a float is finite, with an exception if it is not. -/
def ckfinite : Template := .exact
  [.ldloc_0, .callvirt, .call, .brtrue_s, .ldloc_0, .callvirt, .call, .brfalse_s, .ldstr, .newobj,
   .throw]

/-! ## Shapes: calls, arguments and locals -/

def call : Template := .exact
  [.ldarg_1, .castclass, .stloc_0, .ldarg_0, .ldloc_0, .callvirt, .call, .stloc_1, .ldarg_0,
   .ldloc_1, .ldc_i4_0, .call, .ret]

/-- A load from a store at the index in the operand. -/
def indexedLoad : Template := .exact
  [.ldarg_1, .castclass, .stloc_0, .ldarg_0, .ldarg_0, .ldfld, .ldloc_0, .callvirt, .ldelem,
   .callvirt, .call, .ret]

/-- A load of the address of an element of a store. -/
def addressLoad : Template := .exact
  [.ldloc_1, .ldarg_0, .ldfld, .ldloc_0, .callvirt, .ldelem, .callvirt, .ldloc_1, .call, .ret]

/-- An access to an argument that is stored to. -/
def argumentStore : Template := .exact [.ldarg_0, .ldfld, .ldloc_0, .callvirt, .ldelem]

def argumentStoreTail : Template := .exact [.callvirt, .pop, .ret]

/-- A store to a local at the index in the operand. -/
def indexedStore : Template := .exact
  [.ldarg_1, .castclass, .stloc_0, .ldarg_0, .ldloc_0, .callvirt, .call, .ret]

/-- The beginning of the helper that stores to a local. -/
def localStoreHelper : Template := .exact [.ldarg_0, .call, .stloc_0, .ldloc_0, .isinst]

def slotLoad : Template :=
  ⟨[.exact .ldarg_0, .exact .ldarg_0, .exact .ldfld, .hole literalHole, .exact .ldelem,
    .exact .callvirt, .exact .call, .exact .ret]⟩

def slotStore : Template :=
  ⟨[.exact .ldarg_0, .hole literalHole, .exact .call, .exact .ret]⟩

/-! ## Shapes: literals -/

def constantLoad : Template :=
  ⟨[.exact .ldarg_0, .exact .newobj, .exact .stloc_0, .exact .ldloc_0, .hole literalHole,
    .exact .callvirt, .exact .ldloc_0, .exact .call, .exact .ret]⟩

/-- A load of the operand itself. -/
def operandLoad : Template := .exact [.ldarg_0, .ldarg_1, .call, .ret]

def ldnull : Template := .exact [.ldarg_0, .newobj, .call, .ret]

def ldstr : Template := .exact
  [.ldarg_1, .castclass, .callvirt, .stloc_0, .ldarg_0, .ldloc_0, .call, .stloc_1, .ldarg_0,
   .newobj, .stloc_2, .ldloc_2, .ldloc_1, .callvirt, .ldloc_2, .call, .ret]

/-! ## Shapes: control flow -/

def ret : Template := .exact [.ldarg_0, .call, .ret]

/-- The helper that marks the method as left. -/
def retHelper : Template := .exact [.ldarg_0, .ldc_i4_1, .stfld, .ret]

def throw : Template := .exact [.ldarg_0, .call, .stloc_0, .ldloc_0, .callvirt, .call, .ret]

def throwHelper : Template := .exact
  [.ldarg_0, .isinst, .stloc_0, .ldloc_0, .call, .ldarg_0, .call, .ret]

/-- A throw of the exception that is being handled. -/
def rethrow : Template := .exact
  [.newobj, .throw, .ldarg_0, .ldarg_0, .ldfld, .callvirt, .callvirt, .stfld, .ldarg_0, .ldfld,
   .call, .ret]

end Shape

namespace Signature

/-! ## Forms of a signature -/

/-- A handler that is exactly the template. -/
def whole (label : Operation) (t : Template) : Signature := certain label (.entire t)

/-- A handler that is exactly the template, for a declared kind of operand. -/
def ofKind (label : Operation) (t : Template) (kind : OperandKind) : Signature :=
  certain label (.both (.entire t) (.operandKind kind))

/-- A handler or a helper of it that holds the template. -/
def reached (label : Operation) (t : Template) : Signature := certain label (.reaches t)

/-- A handler that calls the helpers that hold the template with the given flags only. -/
def flagged (label : Operation) (helper : Template) (flags : List Bool) : Signature :=
  certain label (.selects flags helper)

def indexedLoad (label : Operation) (width : String) (store : Storage) : Signature :=
  certain label (.captured .entire Shape.indexedLoad [(7, .returns width), (5, .refersTo store)])

def addressLoad (label : Operation) (width : String) : Signature :=
  uncertain label
    (.captured .first Shape.addressLoad [(2, .refersTo .arguments), (4, .returns width)])

/-- Loads from a store at fixed indices; what follows the template is not looked at. -/
def slotLoads (table : List (Operation × Int)) (store : Storage) : List Signature :=
  (literalFamily Shape.slotLoad table).map fun (label, t) =>
    certain label (.captured .head t [(2, .refersTo store)])

def constantLoads (table : List (Operation × Int)) : List Signature :=
  (literalFamily Shape.constantLoad table).map fun (label, t) => whole label t

def argumentStore (label : Operation) (width : String) : Signature :=
  certain label (.both
    (.captured .first Shape.argumentStore [(3, .returns width), (1, .refersTo .arguments)])
    (.anchored Shape.argumentStoreTail .tail))

def indexedStore (label : Operation) (width : String) : Signature :=
  certain label (.captured .entire Shape.indexedStore
    [(5, .returns width), (6, .occurs Shape.localStoreHelper)])

def slotStores (table : List (Operation × Int)) : List Signature :=
  (literalFamily Shape.slotStore table).map fun (label, t) =>
    certain label (.captured .entire t [(2, .occurs Shape.localStoreHelper)])

/-! ## The table -/

def standard : List Signature :=
  [flagged .add Shape.addHelper [false, false],
   flagged .add_ovf Shape.addHelper [true, false],
   flagged .add_ovf_un Shape.addHelper [true, true],
   reached .and Shape.and,
   certain .bge (.both (.contains Shape.bgeHeader) (.reaches Shape.lessThanHelper)),
   certain .blt (.both (.contains Shape.bltHeader) (.reaches Shape.lessThanHelper)),
   whole .call Shape.call,
   uncertain .cgt (.both (.anchored Shape.compareTail .tail) (.reaches Shape.greaterThanHelper)),
   certain .ckfinite (.captured .first Shape.ckfinite
     [(2, .isNamed "System.Double::IsNaN"), (6, .isNamed "System.Double::IsInfinity")]),
   certain .clt (.both (.anchored Shape.compareTail .tail) (.reaches Shape.lessThanHelper)),
   flagged .div Shape.divHelper [false],
   flagged .div_un Shape.divHelper [true],
   indexedLoad .ldarg fullIndexType .arguments,
   indexedLoad .ldarg_s shortIndexType .arguments,
   addressLoad .ldarga fullIndexType,
   addressLoad .ldarga_s shortIndexType] ++
  slotLoads [(.ldarg_0, 0), (.ldarg_1, 1), (.ldarg_2, 2), (.ldarg_3, 3)] .arguments ++
  [ofKind .ldc_i4 Shape.operandLoad .int32,
   ofKind .ldc_i4_s Shape.operandLoad .int8] ++
  constantLoads [(.ldc_i4_0, 0), (.ldc_i4_1, 1), (.ldc_i4_2, 2), (.ldc_i4_3, 3), (.ldc_i4_4, 4),
    (.ldc_i4_5, 5), (.ldc_i4_6, 6), (.ldc_i4_7, 7), (.ldc_i4_8, 8), (.ldc_i4_m1, -1)] ++
  [ofKind .ldc_i8 Shape.operandLoad .int64,
   ofKind .ldc_r4 Shape.operandLoad .float32,
   ofKind .ldc_r8 Shape.operandLoad .float64,
   indexedLoad .ldloc fullIndexType .locals,
   indexedLoad .ldloc_s shortIndexType .locals] ++
  slotLoads [(.ldloc_0, 0), (.ldloc_1, 1), (.ldloc_2, 2), (.ldloc_3, 3)] .locals ++
  [whole .ldnull Shape.ldnull,
   certain .ldstr (.captured .entire Shape.ldstr [(6, .returns "System.String")]),
   reached .or Shape.or,
   flagged .rem Shape.remHelper [false],
   flagged .rem_un Shape.remHelper [true],
   certain .ret (.captured .entire Shape.ret [(1, .isCallee Shape.retHelper)]),
   uncertain .rethrow (.captured .first Shape.rethrow [(10, .occursOnce Shape.throwHelper)]),
   reached .shl Shape.shl,
   flagged .shr Shape.shrHelper [true],
   flagged .shr_un Shape.shrHelper [false],
   argumentStore .starg fullIndexType,
   argumentStore .starg_s shortIndexType,
   indexedStore .stloc fullIndexType,
   indexedStore .stloc_s shortIndexType] ++
  slotStores [(.stloc_0, 0), (.stloc_1, 1), (.stloc_2, 2), (.stloc_3, 3)] ++
  [flagged .sub Shape.subHelper [false, false],
   flagged .sub_ovf Shape.subHelper [true, false],
   flagged .sub_ovf_un Shape.subHelper [true, true],
   uncertain .throw (.captured .entire Shape.throw [(5, .occursOnce Shape.throwHelper)]),
   reached .xor Shape.xor]

/-- Every operation has one standard signature, and they stand in the order of the operations. -/
theorem map_label_standard : standard.map Signature.label = Operation.all := rfl

end Signature

def Registry.standard : Registry := .ofSignatures Signature.standard

theorem Registry.map_label_standard : standard.rules.map Rule.label = Operation.all := rfl

end CilRecovery
