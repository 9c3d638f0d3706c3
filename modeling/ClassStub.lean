import ClassStub.Access
import ClassStub.Archive.Basic
import ClassStub.Archive.Entry
import ClassStub.Bytes
import ClassStub.ClassFile.Fault
import ClassStub.ClassFile.Kind
import ClassStub.ClassFile.Layout
import ClassStub.ClassFile.Parse
import ClassStub.ClassFile.Pool
import ClassStub.ClassFile.Reader
import ClassStub.Command.Arguments
import ClassStub.Command.Description
import ClassStub.Command.Fatal
import ClassStub.Command.Report
import ClassStub.Command.Run
import ClassStub.Decimal.Binary64
import ClassStub.Decimal.Shortest
import ClassStub.Declaration
import ClassStub.Descriptor.JavaType
import ClassStub.Descriptor.Signature
import ClassStub.FileTree.Basic
import ClassStub.FileTree.Resolve
import ClassStub.FileTree.Write
import ClassStub.Glob.Language
import ClassStub.Glob.Lexeme
import ClassStub.Glob.Pattern
import ClassStub.Json
import ClassStub.Log.Buffer
import ClassStub.Log.Event
import ClassStub.Log.FieldValue
import ClassStub.Log.Filter
import ClassStub.Log.Line
import ClassStub.Log.Logger
import ClassStub.Main
import ClassStub.Path
import ClassStub.Proofs.Bytes
import ClassStub.RegularExpression.Basic
import ClassStub.RegularExpression.Reader
import ClassStub.RegularExpression.Set
import ClassStub.Selection
import ClassStub.Session
import ClassStub.Settings.Basic
import ClassStub.Settings.Decode
import ClassStub.Settings.Load
import ClassStub.Settings.Redact
import ClassStub.Settings.Source
import ClassStub.SourceFile
import ClassStub.Stub
import ClassStub.Text.Alphanumeric
import ClassStub.Text.Charset
import ClassStub.Text.Digits
import ClassStub.Text.Hidden
import ClassStub.Text.ModifiedUtf8
import ClassStub.Text.Quoted
import ClassStub.Text.Segment
import ClassStub.Text.Units
import ClassStub.Text.Utf8
import ClassStub.Toml.Document
import ClassStub.Toml.Lexical
import ClassStub.Toml.Scan
import ClassStub.Toml.Value
import ClassStub.Zip.Bits
import ClassStub.Zip.CodePage
import ClassStub.Zip.Crc32
import ClassStub.Zip.Directory
import ClassStub.Zip.Extra
import ClassStub.Zip.Huffman
import ClassStub.Zip.Inflate
import ClassStub.Zip.Record
import ClassStub.Proofs.ClassFile.Decoding
import ClassStub.Proofs.ClassFile.ConstantPool
import ClassStub.Proofs.ClassFile.Grammar
import ClassStub.Proofs.ClassFile.Prefixes
import ClassStub.Proofs.Descriptor.Spelling
import ClassStub.Proofs.Stub.Print
import ClassStub.Proofs.Text.Identifier
import ClassStub.Proofs.Descriptor.Tokens
import ClassStub.Proofs.Stub.Readable
import ClassStub.Proofs.Text.ModifiedUtf8
import ClassStub.Proofs.ClassFile.Skipped
import ClassStub.Proofs.Descriptor.Signature
import ClassStub.Proofs.Path
import ClassStub.Proofs.SourceFile
import ClassStub.Proofs.Command.OutputPaths
import ClassStub.Proofs.FileTree.Changes
import ClassStub.Proofs.FileTree.Walks
import ClassStub.Proofs.FileTree.Paths
import ClassStub.Proofs.FileTree.Writes
import ClassStub.Proofs.Archive.Kind
import ClassStub.Proofs.Session
import ClassStub.Proofs.Command.Accounting
import ClassStub.Proofs.Command.Arguments
import ClassStub.Proofs.Command.OutputFiles
import ClassStub.Proofs.Archive.Items
import ClassStub.Proofs.Archive.Listing
import ClassStub.Proofs.Archive.EntryNames
import ClassStub.Proofs.Archive.Exploded
import ClassStub.Proofs.Command.Records
import ClassStub.Proofs.Command.Interruptions
import ClassStub.Proofs.Archive.Reach
import ClassStub.Proofs.Settings.Misfits
import ClassStub.Proofs.Settings.Sections
import ClassStub.Proofs.Settings.UnknownKeys
import ClassStub.Proofs.ClassFile.SlotLayout
import ClassStub.Proofs.ClassFile.References
import ClassStub.Proofs.Settings.LogSources
import ClassStub.Proofs.Selection
import ClassStub.Proofs.Command.Restrictions
import ClassStub.Proofs.Descriptor.Cutting
import ClassStub.Proofs.Descriptor.Shape
import ClassStub.Proofs.Text.Groups
import ClassStub.Proofs.ClassFile.TextConstant
import ClassStub.Proofs.Text.Concatenation
import ClassStub.Proofs.Text.Pattern
import ClassStub.Proofs.ClassNames
import ClassStub.Proofs.Stub.Places
import ClassStub.Proofs.Settings.HiddenValues
import ClassStub.Proofs.Settings.MaskedMessages
import ClassStub.Proofs.Log.RecentLines
import ClassStub.Proofs.ClassFile.Cursor
import ClassStub.Proofs.ClassFile.TableSizes
