import ScanBinder.Batch
import ScanBinder.Bytes
import ScanBinder.Codec.Adler
import ScanBinder.Codec.Aes
import ScanBinder.Codec.Ascii85
import ScanBinder.Codec.BitStream
import ScanBinder.Codec.Crc
import ScanBinder.Codec.Deflate
import ScanBinder.Codec.Facsimile
import ScanBinder.Codec.Handover
import ScanBinder.Codec.Huffman
import ScanBinder.Codec.Inflate
import ScanBinder.Codec.Lzw
import ScanBinder.Codec.Md5
import ScanBinder.Codec.PackBits
import ScanBinder.Codec.Packer
import ScanBinder.Codec.Rc4
import ScanBinder.Codec.RowFilter
import ScanBinder.Combine
import ScanBinder.Command.Arguments
import ScanBinder.Command.Help
import ScanBinder.Command.Log
import ScanBinder.Command.Run
import ScanBinder.Command.Similarity
import ScanBinder.Config
import ScanBinder.Failure
import ScanBinder.Files.Arrange
import ScanBinder.Files.Tree
import ScanBinder.Image.Bmp
import ScanBinder.Image.Bmp.Header
import ScanBinder.Image.Colour
import ScanBinder.Image.Fault
import ScanBinder.Image.Format
import ScanBinder.Image.Gif
import ScanBinder.Image.Jpeg.Blocks
import ScanBinder.Image.Jpeg.Course
import ScanBinder.Image.Jpeg.Decode
import ScanBinder.Image.Jpeg.Encode
import ScanBinder.Image.Jpeg.Flaw
import ScanBinder.Image.Jpeg.Planes
import ScanBinder.Image.Jpeg.Segments
import ScanBinder.Image.Jpeg.Tables
import ScanBinder.Image.Jpeg.Transform
import ScanBinder.Image.Load
import ScanBinder.Image.Picture
import ScanBinder.Image.Png
import ScanBinder.Image.Png.Chunk
import ScanBinder.Image.Png.Header
import ScanBinder.Image.Png.Pixels
import ScanBinder.Image.Png.Rows
import ScanBinder.Image.Raster
import ScanBinder.Image.Tiff
import ScanBinder.Image.Tiff.Chunk
import ScanBinder.Image.Tiff.Description
import ScanBinder.Image.Tiff.Directory
import ScanBinder.Main
import ScanBinder.Moment
import ScanBinder.Number.Binary
import ScanBinder.Number.Decimal
import ScanBinder.PageSize
import ScanBinder.Path
import ScanBinder.Pdf.Build
import ScanBinder.Pdf.Compress
import ScanBinder.Pdf.Filter
import ScanBinder.Pdf.Inspect
import ScanBinder.Pdf.Load
import ScanBinder.Pdf.Object
import ScanBinder.Pdf.Packed
import ScanBinder.Pdf.Parse
import ScanBinder.Pdf.Security
import ScanBinder.Pdf.Table
import ScanBinder.Pdf.Write
import ScanBinder.Proofs.Atoms
import ScanBinder.Proofs.ChildPaths
import ScanBinder.Proofs.Combining
import ScanBinder.Proofs.CommandRun
import ScanBinder.Proofs.Compositing
import ScanBinder.Proofs.CompressedStreams
import ScanBinder.Proofs.Dates
import ScanBinder.Proofs.DecimalText
import ScanBinder.Proofs.DeepAlpha
import ScanBinder.Proofs.DocumentGraph
import ScanBinder.Proofs.Enumeration
import ScanBinder.Proofs.FolderSpelling
import ScanBinder.Proofs.ImageSizes
import ScanBinder.Proofs.InputFiles
import ScanBinder.Proofs.Inspection
import ScanBinder.Proofs.IntegerWidth
import ScanBinder.Proofs.KeptObjects
import ScanBinder.Proofs.Loading
import ScanBinder.Proofs.LossyNames
import ScanBinder.Proofs.Noise
import ScanBinder.Proofs.ObjectTable
import ScanBinder.Proofs.OffsetTable
import ScanBinder.Proofs.Outcomes
import ScanBinder.Proofs.PageCount
import ScanBinder.Proofs.PageGeometry
import ScanBinder.Proofs.PageImages
import ScanBinder.Proofs.PageNumbers
import ScanBinder.Proofs.PageOrder
import ScanBinder.Proofs.PageTree
import ScanBinder.Proofs.PaletteColours
import ScanBinder.Proofs.PictureSamples
import ScanBinder.Proofs.References
import ScanBinder.Proofs.Renaming
import ScanBinder.Proofs.Rerun
import ScanBinder.Proofs.Rounding
import ScanBinder.Proofs.RoundingError
import ScanBinder.Proofs.SavedBinding
import ScanBinder.Proofs.SavedDocument
import ScanBinder.Proofs.SavedFile
import ScanBinder.Proofs.ScanOrder
import ScanBinder.Proofs.Scanning
import ScanBinder.Proofs.Tokens
import ScanBinder.Proofs.TreeWrites
import ScanBinder.Proofs.Values
import ScanBinder.Proofs.WrittenPages
import ScanBinder.Scan
import ScanBinder.SortKey
import ScanBinder.Text.Blank
import ScanBinder.Text.Escape
import ScanBinder.Text.Letter
import ScanBinder.Text.Pattern
import ScanBinder.Text.Silent
import ScanBinder.Text.Terminal
import ScanBinder.Text.Utf8
