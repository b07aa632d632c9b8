/-!
# The zones of the world

The rules and histories of the named zones of the world, from local mean time on, in the form that
`Table.ofChars` reads. The rules are played up to the end of 2099; after that nothing changes any
more.
-/

namespace SpanQuery.Calendar

def worldText : String := "R A 1930 1930 12 1 0 1
R A 1931 1931 4 1 0 0
R A 1931 1931 10 15 0 1
R A 1932 1940 3 1 0 0
R A 1932 1939 11 1 0 1
R A 1940 1940 7 1 0 1
R A 1941 1941 6 15 0 0
R A 1941 1941 10 15 0 1
R A 1943 1943 8 1 0 0
R A 1943 1943 10 15 0 1
R A 1946 1946 3 1 0 0
R A 1946 1946 10 1 0 1
R A 1963 1963 10 1 0 0
R A 1963 1963 12 15 0 1
R A 1964 1966 3 1 0 0
R A 1964 1966 10 15 0 1
R A 1967 1967 4 2 0 0
R A 1967 1968 10 0>1 0 1
R A 1968 1969 4 0>1 0 0
R A 1974 1974 1 23 0 1
R A 1974 1974 5 1 0 0
R A 1988 1988 12 1 0 1
R A 1989 1993 3 0>1 0 0
R A 1989 1992 10 0>15 0 1
R A 1999 1999 10 0>1 0 1
R A 2000 2000 3 3 0 0
R A 2007 2007 12 30 0 1
R A 2008 2009 3 0>15 0 0
R A 2008 2008 10 0>15 0 1
R AM 2011 2011 3 0$ 2s 1
R AM 2011 2011 10 0$ 2s 0
R AN 1971 1985 10 0$ 2s 1
R AN 1972 1972 2 27 2s 0
R AN 1973 1981 3 0>1 2s 0
R AN 1982 1982 4 0>1 2s 0
R AN 1983 1985 3 0>1 2s 0
R AN 1986 1989 3 0>15 2s 0
R AN 1986 1986 10 19 2s 1
R AN 1987 1999 10 0$ 2s 1
R AN 1990 1995 3 0>1 2s 0
R AN 1996 2005 3 0$ 2s 0
R AN 2000 2000 8 0$ 2s 1
R AN 2001 2007 10 0$ 2s 1
R AN 2006 2006 4 0>1 2s 0
R AN 2007 2007 3 0$ 2s 0
R AN 2008 2099 4 0>1 2s 0
R AN 2008 2099 10 0>1 2s 1
R AQ 1971 1971 10 0$ 2s 1
R AQ 1972 1972 2 0$ 2s 0
R AQ 1989 1991 10 0$ 2s 1
R AQ 1990 1992 3 0>1 2s 0
R AS 1971 1985 10 0$ 2s 1
R AS 1986 1986 10 19 2s 1
R AS 1987 2007 10 0$ 2s 1
R AS 1972 1972 2 27 2s 0
R AS 1973 1985 3 0>1 2s 0
R AS 1986 1990 3 0>15 2s 0
R AS 1991 1991 3 3 2s 0
R AS 1992 1992 3 22 2s 0
R AS 1993 1993 3 7 2s 0
R AS 1994 1994 3 20 2s 0
R AS 1995 2005 3 0$ 2s 0
R AS 2006 2006 4 2 2s 0
R AS 2007 2007 3 0$ 2s 0
R AS 2008 2099 4 0>1 2s 0
R AS 2008 2099 10 0>1 2s 1
R AT 1916 1916 10 0>1 2s 1
R AT 1917 1917 3 0$ 2s 0
R AT 1917 1918 10 0>22 2s 1
R AT 1918 1919 3 0>1 2s 0
R AT 1967 1967 10 0>1 2s 1
R AT 1968 1968 3 0>29 2s 0
R AT 1968 1985 10 0$ 2s 1
R AT 1969 1971 3 0>8 2s 0
R AT 1972 1972 2 0$ 2s 0
R AT 1973 1981 3 0>1 2s 0
R AT 1982 1983 3 0$ 2s 0
R AT 1984 1986 3 0>1 2s 0
R AT 1986 1986 10 0>15 2s 1
R AT 1987 1990 3 0>15 2s 0
R AT 1987 1987 10 0>22 2s 1
R AT 1988 1990 10 0$ 2s 1
R AT 1991 1999 10 0>1 2s 1
R AT 1991 2005 3 0$ 2s 0
R AT 2000 2000 8 0$ 2s 1
R AT 2001 2099 10 0>1 2s 1
R AT 2006 2006 4 0>1 2s 0
R AT 2007 2007 3 0$ 2s 0
R AT 2008 2099 4 0>1 2s 0
R AU 1917 1917 1 1 2s 1
R AU 1917 1917 3 0$ 2s 0
R AU 1942 1942 1 1 2s 1
R AU 1942 1942 3 0$ 2s 0
R AU 1942 1942 9 27 2s 1
R AU 1943 1944 3 0$ 2s 0
R AU 1943 1943 10 3 2s 1
R AV 1971 1985 10 0$ 2s 1
R AV 1972 1972 2 0$ 2s 0
R AV 1973 1985 3 0>1 2s 0
R AV 1986 1990 3 0>15 2s 0
R AV 1986 1987 10 0>15 2s 1
R AV 1988 1999 10 0$ 2s 1
R AV 1991 1994 3 0>1 2s 0
R AV 1995 2005 3 0$ 2s 0
R AV 2000 2000 8 0$ 2s 1
R AV 2001 2007 10 0$ 2s 1
R AV 2006 2006 4 0>1 2s 0
R AV 2007 2007 3 0$ 2s 0
R AV 2008 2099 4 0>1 2s 0
R AV 2008 2099 10 0>1 2s 1
R AW 1974 1974 10 0$ 2s 1
R AW 1975 1975 3 0>1 2s 0
R AW 1983 1983 10 0$ 2s 1
R AW 1984 1984 3 0>1 2s 0
R AW 1991 1991 11 17 2s 1
R AW 1992 1992 3 0>1 2s 0
R AW 2006 2006 12 3 2s 1
R AW 2007 2009 3 0$ 2s 0
R AW 2007 2008 10 0$ 2s 1
R AZ 1997 2015 3 0$ 4 1
R AZ 1997 2015 10 0$ 5 0
R B 1931 1931 10 3 11 1
R B 1932 1933 4 1 0 0
R B 1932 1932 10 3 0 1
R B 1949 1952 12 1 0 1
R B 1950 1950 4 16 1 0
R B 1951 1952 4 1 0 0
R B 1953 1953 3 1 0 0
R B 1963 1963 12 9 0 1
R B 1964 1964 3 1 0 0
R B 1965 1965 1 31 0 1
R B 1965 1965 3 31 0 0
R B 1965 1965 12 1 0 1
R B 1966 1968 3 1 0 0
R B 1966 1967 11 1 0 1
R B 1985 1985 11 2 0 1
R B 1986 1986 3 15 0 0
R B 1986 1986 10 25 0 1
R B 1987 1987 2 14 0 0
R B 1987 1987 10 25 0 1
R B 1988 1988 2 7 0 0
R B 1988 1988 10 16 0 1
R B 1989 1989 1 29 0 0
R B 1989 1989 10 15 0 1
R B 1990 1990 2 11 0 0
R B 1990 1990 10 21 0 1
R B 1991 1991 2 17 0 0
R B 1991 1991 10 20 0 1
R B 1992 1992 2 9 0 0
R B 1992 1992 10 25 0 1
R B 1993 1993 1 31 0 0
R B 1993 1995 10 0>11 0 1
R B 1994 1995 2 0>15 0 0
R B 1996 1996 2 11 0 0
R B 1996 1996 10 6 0 1
R B 1997 1997 2 16 0 0
R B 1997 1997 10 6 0 1
R B 1998 1998 3 1 0 0
R B 1998 1998 10 11 0 1
R B 1999 1999 2 21 0 0
R B 1999 1999 10 3 0 1
R B 2000 2000 2 27 0 0
R B 2000 2001 10 0>8 0 1
R B 2001 2006 2 0>15 0 0
R B 2002 2002 11 3 0 1
R B 2003 2003 10 19 0 1
R B 2004 2004 11 2 0 1
R B 2005 2005 10 16 0 1
R B 2006 2006 11 5 0 1
R B 2007 2007 2 25 0 0
R B 2007 2007 10 0>8 0 1
R B 2008 2017 10 0>15 0 1
R B 2008 2011 2 0>15 0 0
R B 2012 2012 2 0>22 0 0
R B 2013 2014 2 0>15 0 0
R B 2015 2015 2 0>22 0 0
R B 2016 2019 2 0>15 0 0
R B 2018 2018 11 0>1 0 1
R BB 1942 1942 4 19 5u 1
R BB 1942 1942 8 31 6u 0
R BB 1943 1943 5 2 5u 1
R BB 1943 1943 9 5 6u 0
R BB 1944 1944 4 10 5u 0:30
R BB 1944 1944 9 10 6u 0
R BB 1977 1977 6 12 2 1
R BB 1977 1978 10 0>1 2 0
R BB 1978 1980 4 0>15 2 1
R BB 1979 1979 9 30 2 0
R BB 1980 1980 9 25 2 0
R BD 2009 2009 6 19 23 1
R BD 2009 2009 12 31 24 0
R BG 1979 1979 3 31 23 1
R BG 1979 1979 10 1 1 0
R BG 1980 1982 4 6>1 23 1
R BG 1980 1980 9 29 1 0
R BG 1981 1981 9 27 2 0
R BZ 1918 1941 10 6>1 24 0:30
R BZ 1919 1942 2 6>8 24 0
R BZ 1942 1942 6 27 24 1
R BZ 1945 1945 8 14 23u 1
R BZ 1945 1945 12 15 24 0
R BZ 1947 1967 10 6>1 24 0:30
R BZ 1948 1968 2 6>8 24 0
R BZ 1973 1973 12 5 0 1
R BZ 1974 1974 2 9 0 0
R BZ 1982 1982 12 18 0 1
R BZ 1983 1983 2 12 0 0
R Be 1917 1917 4 5 24 1
R Be 1917 1917 9 30 24 0
R Be 1918 1918 4 13 24 1
R Be 1918 1918 9 15 24 0
R Be 1942 1942 1 11 2 1
R Be 1942 1942 10 18 2 0
R Be 1943 1943 3 21 2 1
R Be 1943 1943 10 31 2 0
R Be 1944 1945 3 0>8 2 1
R Be 1944 1945 11 0>1 2 0
R Be 1947 1947 5 0>15 2 1
R Be 1947 1947 9 0>8 2 0
R Be 1948 1952 5 0>22 2 1
R Be 1948 1952 9 0>1 2 0
R Be 1956 1956 5 0>22 2 1
R Be 1956 1956 10 0$ 2 0
R C 1918 1918 4 14 2 1
R C 1918 1918 10 27 2 0
R C 1942 1942 2 9 2 1
R C 1945 1945 8 14 23u 1
R C 1945 1945 9 30 2 0
R C 1974 1986 4 0$ 2 1
R C 1974 2006 10 0$ 2 0
R C 1987 2006 4 0>1 2 1
R C 2007 2099 3 0>8 2 1
R C 2007 2099 11 0>1 2 0
R CA 1948 1948 3 14 2:1 1
R CA 1949 1949 1 1 2 0
R CA 1950 1966 4 0$ 1 1
R CA 1950 1961 9 0$ 2 0
R CA 1962 1966 10 0$ 2 0
R CH 1941 1942 5 1>1 1 1
R CH 1941 1942 10 1>1 2 0
R CK 1978 1978 11 12 0 0:30
R CK 1979 1991 3 0>1 0 0
R CK 1979 1990 10 0$ 0 0:30
R CN 1986 1986 5 4 2 1
R CN 1986 1991 9 0>11 2 0
R CN 1987 1991 4 0>11 2 1
R CO 1992 1992 5 3 0 1
R CO 1993 1993 2 6 24 0
R CR 1979 1980 2 0$ 0 1
R CR 1979 1980 6 0>1 0 0
R CR 1991 1992 1 6>15 0 1
R CR 1991 1991 7 1 0 0
R CR 1992 1992 3 15 0 0
R CY 1975 1975 4 13 0 1
R CY 1975 1975 10 12 0 0
R CY 1976 1976 5 15 0 1
R CY 1976 1976 10 11 0 0
R CY 1977 1980 4 0>1 0 1
R CY 1977 1977 9 25 0 0
R CY 1978 1978 10 2 0 0
R CY 1979 1997 9 0$ 0 0
R CY 1981 1998 3 0$ 0 1
R CZ 1945 1945 4 1>1 2s 1
R CZ 1945 1945 10 1 2s 0
R CZ 1946 1946 5 6 2s 1
R CZ 1946 1949 10 0>1 2s 0
R CZ 1947 1948 4 0>15 2s 1
R CZ 1949 1949 4 9 2s 1
R Ch 1920 1920 6 13 2 1
R Ch 1920 1921 10 0$ 2 0
R Ch 1921 1921 3 0$ 2 1
R Ch 1922 1966 4 0$ 2 1
R Ch 1922 1954 9 0$ 2 0
R Ch 1955 1966 10 0$ 2 0
R DE 1946 1946 4 14 2s 1
R DE 1946 1946 10 7 2s 0
R DE 1947 1949 10 0>1 2s 0
R DE 1947 1947 4 6 3s 1
R DE 1947 1947 5 11 2s 2
R DE 1947 1947 6 29 3 1
R DE 1948 1948 4 18 2s 1
R DE 1949 1949 4 10 2s 1
R DO 1966 1966 10 30 0 1
R DO 1967 1967 2 28 0 0
R DO 1969 1973 10 0$ 0 0:30
R DO 1970 1970 2 21 0 0
R DO 1971 1971 1 20 0 0
R DO 1972 1974 1 21 0 0
R De 1920 1921 3 0$ 2 1
R De 1920 1920 10 0$ 2 0
R De 1921 1921 5 22 2 0
R De 1965 1966 4 0$ 2 1
R De 1965 1966 10 0$ 2 0
R Dt 1948 1948 4 0$ 2 1
R Dt 1948 1948 9 0$ 2 0
R E 1977 1980 4 0>1 1u 1
R E 1977 1977 9 0$ 1u 0
R E 1978 1978 10 1 1u 0
R E 1979 1995 9 0$ 1u 0
R E 1981 2099 3 0$ 1u 1
R E 1996 2099 10 0$ 1u 0
R EC 1992 1992 11 28 0 1
R EC 1993 1993 2 5 0 0
R Ed 1918 1919 4 0>8 2 1
R Ed 1918 1918 10 27 2 0
R Ed 1919 1919 5 27 2 0
R Ed 1920 1923 4 0$ 2 1
R Ed 1920 1920 10 0$ 2 0
R Ed 1921 1923 9 0$ 2 0
R Ed 1942 1942 2 9 2 1
R Ed 1945 1945 8 14 23u 1
R Ed 1945 1945 9 0$ 2 0
R Ed 1947 1947 4 0$ 2 1
R Ed 1947 1947 9 0$ 2 0
R Ed 1972 1986 4 0$ 2 1
R Ed 1972 2006 10 0$ 2 0
R F 1916 1916 6 14 23s 1
R F 1916 1919 10 0>1 23s 0
R F 1917 1917 3 24 23s 1
R F 1918 1918 3 9 23s 1
R F 1919 1919 3 1 23s 1
R F 1920 1920 2 14 23s 1
R F 1920 1920 10 23 23s 0
R F 1921 1921 3 14 23s 1
R F 1921 1921 10 25 23s 0
R F 1922 1922 3 25 23s 1
R F 1922 1938 10 6>1 23s 0
R F 1923 1923 5 26 23s 1
R F 1924 1924 3 29 23s 1
R F 1925 1925 4 4 23s 1
R F 1926 1926 4 17 23s 1
R F 1927 1927 4 9 23s 1
R F 1928 1928 4 14 23s 1
R F 1929 1929 4 20 23s 1
R F 1930 1930 4 12 23s 1
R F 1931 1931 4 18 23s 1
R F 1932 1932 4 2 23s 1
R F 1933 1933 3 25 23s 1
R F 1934 1934 4 7 23s 1
R F 1935 1935 3 30 23s 1
R F 1936 1936 4 18 23s 1
R F 1937 1937 4 3 23s 1
R F 1938 1938 3 26 23s 1
R F 1939 1939 4 15 23s 1
R F 1939 1939 11 18 23s 0
R F 1940 1940 2 25 2 1
R F 1941 1941 5 5 0 2
R F 1941 1941 10 6 0 1
R F 1942 1942 3 9 0 2
R F 1942 1942 11 2 3 1
R F 1943 1943 3 29 2 2
R F 1943 1943 10 4 3 1
R F 1944 1944 4 3 2 2
R F 1944 1944 10 8 1 1
R F 1945 1945 4 2 2 2
R F 1945 1945 9 16 3 0
R F 1976 1976 3 28 1 1
R F 1976 1976 9 26 1 0
R FI 1942 1942 4 2 24 1
R FI 1942 1942 10 4 1 0
R FI 1981 1982 3 0$ 2 1
R FI 1981 1982 9 0$ 3 0
R FJ 1998 1999 11 0>1 2 1
R FJ 1999 2000 2 0$ 3 0
R FJ 2009 2009 11 29 2 1
R FJ 2010 2010 3 0$ 3 0
R FJ 2010 2013 10 0>21 2 1
R FJ 2011 2011 3 0>1 3 0
R FJ 2012 2013 1 0>18 3 0
R FJ 2014 2014 1 0>18 2 0
R FJ 2014 2018 11 0>1 2 1
R FJ 2015 2021 1 0>12 3 0
R FJ 2019 2019 11 0>8 2 1
R FJ 2020 2020 12 20 2 1
R FK 1937 1938 9 0$ 0 1
R FK 1938 1942 3 0>19 0 0
R FK 1939 1939 10 1 0 1
R FK 1940 1942 9 0$ 0 1
R FK 1943 1943 1 1 0 0
R FK 1983 1983 9 0$ 0 1
R FK 1984 1985 4 0$ 0 0
R FK 1984 1984 9 16 0 1
R FK 1985 2000 9 0>9 0 1
R FK 1986 2000 4 0>16 0 0
R FK 2001 2010 4 0>15 2 0
R FK 2001 2010 9 0>1 2 1
R G 1916 1916 5 21 2s 1
R G 1916 1916 10 1 2s 0
R G 1917 1917 4 8 2s 1
R G 1917 1917 9 17 2s 0
R G 1918 1918 3 24 2s 1
R G 1918 1918 9 30 2s 0
R G 1919 1919 3 30 2s 1
R G 1919 1919 9 29 2s 0
R G 1920 1920 3 28 2s 1
R G 1920 1920 10 25 2s 0
R G 1921 1921 4 3 2s 1
R G 1921 1921 10 3 2s 0
R G 1922 1922 3 26 2s 1
R G 1922 1922 10 8 2s 0
R G 1923 1923 4 0>16 2s 1
R G 1923 1924 9 0>16 2s 0
R G 1924 1924 4 0>9 2s 1
R G 1925 1926 4 0>16 2s 1
R G 1925 1938 10 0>2 2s 0
R G 1927 1927 4 0>9 2s 1
R G 1928 1929 4 0>16 2s 1
R G 1930 1930 4 0>9 2s 1
R G 1931 1932 4 0>16 2s 1
R G 1933 1933 4 0>9 2s 1
R G 1934 1934 4 0>16 2s 1
R G 1935 1935 4 0>9 2s 1
R G 1936 1937 4 0>16 2s 1
R G 1938 1938 4 0>9 2s 1
R G 1939 1939 4 0>16 2s 1
R G 1939 1939 11 0>16 2s 0
R G 1940 1940 2 0>23 2s 1
R G 1941 1941 5 0>2 1s 2
R G 1941 1943 8 0>9 1s 1
R G 1942 1944 4 0>2 1s 2
R G 1944 1944 9 0>16 1s 1
R G 1945 1945 4 1>2 1s 2
R G 1945 1945 7 0>9 1s 1
R G 1945 1946 10 0>2 2s 0
R G 1946 1946 4 0>9 2s 1
R G 1947 1947 3 16 2s 1
R G 1947 1947 4 13 1s 2
R G 1947 1947 8 10 1s 1
R G 1947 1947 11 2 2s 0
R G 1948 1948 3 14 2s 1
R G 1948 1948 10 31 2s 0
R G 1949 1949 4 3 2s 1
R G 1949 1949 10 30 2s 0
R G 1950 1952 4 0>14 2s 1
R G 1950 1952 10 0>21 2s 0
R G 1953 1953 4 0>16 2s 1
R G 1953 1960 10 0>2 2s 0
R G 1954 1954 4 0>9 2s 1
R G 1955 1956 4 0>16 2s 1
R G 1957 1957 4 0>9 2s 1
R G 1958 1959 4 0>16 2s 1
R G 1960 1960 4 0>9 2s 1
R G 1961 1963 3 0$ 2s 1
R G 1961 1968 10 0>23 2s 0
R G 1964 1967 3 0>19 2s 1
R G 1968 1968 2 18 2s 1
R G 1972 1980 3 0>16 2s 1
R G 1972 1980 10 0>23 2s 0
R G 1981 1995 3 0$ 1u 1
R G 1981 1989 10 0>23 1u 0
R G 1990 1995 10 0>22 1u 0
R GT 1973 1973 11 25 0 1
R GT 1974 1974 2 24 0 0
R GT 1983 1983 5 21 0 1
R GT 1983 1983 9 22 0 0
R GT 1991 1991 3 23 0 1
R GT 1991 1991 9 7 0 0
R GT 2006 2006 4 30 0 1
R GT 2006 2006 10 1 0 0
R Gu 1959 1959 6 27 2 1
R Gu 1961 1961 1 29 2 0
R Gu 1967 1967 9 1 2 1
R Gu 1969 1969 1 26 0:1 0
R Gu 1969 1969 6 22 2 1
R Gu 1969 1969 8 31 2 0
R Gu 1970 1971 4 0$ 2 1
R Gu 1970 1971 9 0>1 2 0
R Gu 1973 1973 12 16 2 1
R Gu 1974 1974 2 24 2 0
R Gu 1976 1976 5 26 2 1
R Gu 1976 1976 8 22 2:1 0
R Gu 1977 1977 4 24 2 1
R Gu 1977 1977 8 28 2 0
R H 1916 1916 4 1 0 1
R H 1916 1916 10 1 0 0
R H 1920 1920 5 9 0 1
R H 1920 1920 8 29 0 0
R H 1921 1921 5 6 0 1
R H 1921 1922 9 5 0 0
R H 1922 1922 4 30 0 1
R H 1923 1925 5 0>1 0 1
R H 1923 1923 9 4 0 0
R H 1924 1924 9 15 0 0
R H 1925 1925 9 28 0 0
R H 1926 1926 5 16 0 1
R H 1926 1926 9 13 0 0
R H 1927 1927 5 1 0 1
R H 1927 1927 9 26 0 0
R H 1928 1931 5 0>8 0 1
R H 1928 1928 9 9 0 0
R H 1929 1929 9 3 0 0
R H 1930 1930 9 15 0 0
R H 1931 1932 9 1>24 0 0
R H 1932 1932 5 1 0 1
R H 1933 1933 4 30 0 1
R H 1933 1933 10 2 0 0
R H 1934 1934 5 20 0 1
R H 1934 1934 9 16 0 0
R H 1935 1935 6 2 0 1
R H 1935 1935 9 30 0 0
R H 1936 1936 6 1 0 1
R H 1936 1936 9 14 0 0
R H 1937 1938 5 0>1 0 1
R H 1937 1941 9 1>24 0 0
R H 1939 1939 5 28 0 1
R H 1940 1941 5 0>1 0 1
R H 1946 1949 4 0$ 2 1
R H 1946 1949 9 0$ 2 0
R H 1951 1954 4 0$ 2 1
R H 1951 1954 9 0$ 2 0
R H 1956 1959 4 0$ 2 1
R H 1956 1959 9 0$ 2 0
R H 1962 1973 4 0$ 2 1
R H 1962 1973 10 0$ 2 0
R HK 1946 1946 4 21 0 1
R HK 1946 1946 12 1 3:30s 0
R HK 1947 1947 4 13 3:30s 1
R HK 1947 1947 11 30 3:30s 0
R HK 1948 1948 5 2 3:30s 1
R HK 1948 1952 10 0>28 3:30s 0
R HK 1949 1953 4 0>1 3:30 1
R HK 1953 1964 10 0>31 3:30 0
R HK 1954 1964 3 0>18 3:30 1
R HK 1965 1976 4 0>16 3:30 1
R HK 1965 1976 10 0>16 3:30 0
R HK 1973 1973 12 30 3:30 1
R HK 1979 1979 5 13 3:30 1
R HK 1979 1979 10 21 3:30 0
R HN 1987 1988 5 0>1 0 1
R HN 1987 1988 9 0$ 0 0
R HN 2006 2006 5 0>1 0 1
R HN 2006 2006 8 1>1 0 0
R HT 1983 1983 5 8 0 1
R HT 1984 1987 4 0$ 0 1
R HT 1983 1987 10 0$ 0 0
R HT 1988 1997 4 0>1 1s 1
R HT 1988 1997 10 0$ 1s 0
R HT 2005 2006 4 0>1 0 1
R HT 2005 2006 10 0$ 0 0
R HT 2012 2015 3 0>8 2 1
R HT 2012 2015 11 0>1 2 0
R HT 2017 2099 3 0>8 2 1
R HT 2017 2099 11 0>1 2 0
R Ho 1992 1993 10 0$ 2s 1
R Ho 1993 1994 3 0>1 2s 0
R I 1916 1916 6 3 24 1
R I 1916 1917 9 30 24 0
R I 1917 1917 3 31 24 1
R I 1918 1918 3 9 24 1
R I 1918 1918 10 6 24 0
R I 1919 1919 3 1 24 1
R I 1919 1919 10 4 24 0
R I 1920 1920 3 20 24 1
R I 1920 1920 9 18 24 0
R I 1940 1940 6 14 24 1
R I 1942 1942 11 2 2s 0
R I 1943 1943 3 29 2s 1
R I 1943 1943 10 4 2s 0
R I 1944 1944 4 2 2s 1
R I 1944 1944 9 17 2s 0
R I 1945 1945 4 2 2 1
R I 1945 1945 9 15 1 0
R I 1946 1946 3 17 2s 1
R I 1946 1946 10 6 2s 0
R I 1947 1947 3 16 0s 1
R I 1947 1947 10 5 0s 0
R I 1948 1948 2 29 2s 1
R I 1948 1948 10 3 2s 0
R I 1966 1968 5 0>22 0s 1
R I 1966 1966 9 24 24 0
R I 1967 1969 9 0>22 0s 0
R I 1969 1969 6 1 0s 1
R I 1970 1970 5 31 0s 1
R I 1970 1970 9 0$ 0s 0
R I 1971 1972 5 0>22 0s 1
R I 1971 1971 9 0$ 0s 0
R I 1972 1972 10 1 0s 0
R I 1973 1973 6 3 0s 1
R I 1973 1974 9 0$ 0s 0
R I 1974 1974 5 26 0s 1
R I 1975 1975 6 1 0s 1
R I 1975 1977 9 0$ 0s 0
R I 1976 1976 5 30 0s 1
R I 1977 1979 5 0>22 0s 1
R I 1978 1978 10 1 0s 0
R I 1979 1979 9 30 0s 0
R IQ 1982 1982 5 1 0 1
R IQ 1982 1984 10 1 0 0
R IQ 1983 1983 3 31 0 1
R IQ 1984 1985 4 1 0 1
R IQ 1985 1990 9 0$ 1s 0
R IQ 1986 1990 3 0$ 1s 1
R IQ 1991 2007 4 1 3s 1
R IQ 1991 2007 10 1 3s 0
R In 1941 1941 6 22 2 1
R In 1941 1954 9 0$ 2 0
R In 1946 1954 4 0$ 2 1
R J 1973 1973 6 6 0 1
R J 1973 1975 10 1 0 0
R J 1974 1977 5 1 0 1
R J 1976 1976 11 1 0 0
R J 1977 1977 10 1 0 0
R J 1978 1978 4 30 0 1
R J 1978 1978 9 30 0 0
R J 1985 1985 4 1 0 1
R J 1985 1985 10 1 0 0
R J 1986 1988 4 5>1 0 1
R J 1986 1990 10 5>1 0 0
R J 1989 1989 5 8 0 1
R J 1990 1990 4 27 0 1
R J 1991 1991 4 17 0 1
R J 1991 1991 9 27 0 0
R J 1992 1992 4 10 0 1
R J 1992 1993 10 5>1 0 0
R J 1993 1998 4 5>1 0 1
R J 1994 1994 9 5>15 0 0
R J 1995 1998 9 5>15 0s 0
R J 1999 1999 7 1 0s 1
R J 1999 2002 9 5$ 0s 0
R J 2000 2001 3 4$ 0s 1
R J 2002 2012 3 4$ 24 1
R J 2003 2003 10 24 0s 0
R J 2004 2004 10 15 0s 0
R J 2005 2005 9 5$ 0s 0
R J 2006 2011 10 5$ 0s 0
R J 2013 2013 12 20 0 0
R J 2014 2021 3 4$ 24 1
R J 2014 2022 10 5$ 0s 0
R J 2022 2022 2 4$ 24 1
R JP 1948 1948 5 6>1 24 1
R JP 1948 1951 9 0>9 1 0
R JP 1949 1949 4 6>1 24 1
R JP 1950 1951 5 6>1 24 1
R K 1940 1940 7 15 0 1
R K 1940 1940 10 1 0 0
R K 1941 1941 4 15 0 1
R K 1941 1941 9 16 0 0
R K 1942 1944 4 1 0 1
R K 1942 1942 10 27 0 0
R K 1943 1945 11 1 0 0
R K 1945 1945 4 16 0 1
R K 1957 1957 5 10 0 1
R K 1957 1958 10 1 0 0
R K 1958 1958 5 1 0 1
R K 1959 1981 5 1 1 1
R K 1959 1965 9 30 3 0
R K 1966 1994 10 1 3 0
R K 1982 1982 7 25 1 1
R K 1983 1983 7 12 1 1
R K 1984 1988 5 1 1 1
R K 1989 1989 5 6 1 1
R K 1990 1994 5 1 1 1
R K 1995 2010 4 5$ 0s 1
R K 1995 2005 9 4$ 24 0
R K 2006 2006 9 21 24 0
R K 2007 2007 9 4>1 24 0
R K 2008 2008 8 4$ 24 0
R K 2009 2009 8 20 24 0
R K 2010 2010 8 10 24 0
R K 2010 2010 9 9 24 1
R K 2010 2010 9 4$ 24 0
R K 2014 2014 5 15 24 1
R K 2014 2014 6 26 24 0
R K 2014 2014 7 31 24 1
R K 2014 2014 9 4$ 24 0
R K 2023 2099 4 5$ 0 1
R K 2023 2099 10 4$ 24 0
R KG 1992 1996 4 0>7 0s 1
R KG 1992 1996 9 0$ 0 0
R KG 1997 2005 3 0$ 2:30 1
R KG 1997 2004 10 0$ 2:30 0
R KR 1948 1948 6 1 0 1
R KR 1948 1948 9 12 24 0
R KR 1949 1949 4 3 0 1
R KR 1949 1951 9 6>7 24 0
R KR 1950 1950 4 1 0 1
R KR 1951 1951 5 6 0 1
R KR 1955 1955 5 5 0 1
R KR 1955 1955 9 8 24 0
R KR 1956 1956 5 20 0 1
R KR 1956 1956 9 29 24 0
R KR 1957 1960 5 0>1 0 1
R KR 1957 1960 9 6>17 24 0
R KR 1987 1988 5 0>8 2 1
R KR 1987 1988 10 0>8 3 0
R L 1951 1951 10 14 2 1
R L 1952 1952 1 1 0 0
R L 1953 1953 10 9 2 1
R L 1954 1954 1 1 0 0
R L 1955 1955 9 30 0 1
R L 1956 1956 1 1 0 0
R L 1982 1984 4 1 0 1
R L 1982 1985 10 1 0 0
R L 1985 1985 4 6 0 1
R L 1986 1986 4 4 0 1
R L 1986 1986 10 3 0 0
R L 1987 1989 4 1 0 1
R L 1987 1989 10 1 0 0
R L 1997 1997 4 4 0 1
R L 1997 1997 10 4 0 0
R L 2013 2013 3 5$ 1 1
R L 2013 2013 10 5$ 2 0
R LH 1981 1984 10 0$ 2 1
R LH 1982 1985 3 0>1 2 0
R LH 1985 1985 10 0$ 2 0:30
R LH 1986 1989 3 0>15 2 0
R LH 1986 1986 10 19 2 0:30
R LH 1987 1999 10 0$ 2 0:30
R LH 1990 1995 3 0>1 2 0
R LH 1996 2005 3 0$ 2 0
R LH 2000 2000 8 0$ 2 0:30
R LH 2001 2007 10 0$ 2 0:30
R LH 2006 2006 4 0>1 2 0
R LH 2007 2007 3 0$ 2 0
R LH 2008 2099 4 0>1 2 0
R LH 2008 2099 10 0>1 2 0:30
R LV 1989 1996 3 0$ 2s 1
R LV 1989 1996 9 0$ 2s 0
R M 1939 1939 9 12 0 1
R M 1939 1939 11 19 0 0
R M 1940 1940 2 25 0 1
R M 1945 1945 11 18 0 0
R M 1950 1950 6 11 0 1
R M 1950 1950 10 29 0 0
R M 1967 1967 6 3 12 1
R M 1967 1967 10 1 0 0
R M 1974 1974 6 24 0 1
R M 1974 1974 9 1 0 0
R M 1976 1977 5 1 0 1
R M 1976 1976 8 1 0 0
R M 1977 1977 9 28 0 0
R M 1978 1978 6 1 0 1
R M 1978 1978 8 4 0 0
R M 2008 2008 6 1 0 1
R M 2008 2008 9 1 0 0
R M 2009 2009 6 1 0 1
R M 2009 2009 8 21 0 0
R M 2010 2010 5 2 0 1
R M 2010 2010 8 8 0 0
R M 2011 2011 4 3 0 1
R M 2011 2011 7 31 0 0
R M 2012 2013 4 0$ 2 1
R M 2012 2012 7 20 3 0
R M 2012 2012 8 20 2 1
R M 2012 2012 9 30 3 0
R M 2013 2013 7 7 3 0
R M 2013 2013 8 10 2 1
R M 2013 2017 10 0$ 3 0
R M 2014 2018 3 0$ 2 1
R M 2014 2014 6 28 3 0
R M 2014 2014 8 2 2 1
R M 2015 2015 6 14 3 0
R M 2015 2015 7 19 2 1
R M 2016 2016 6 5 3 0
R M 2016 2016 7 10 2 1
R M 2017 2017 5 21 3 0
R M 2017 2017 7 2 2 1
R M 2018 2018 5 13 3 0
R M 2018 2018 6 17 2 1
R M 2019 2019 5 5 3 0
R M 2019 2019 6 9 2 1
R M 2020 2020 4 19 3 0
R M 2020 2020 5 31 2 1
R M 2021 2021 4 11 3 0
R M 2021 2021 5 16 2 1
R M 2022 2022 3 27 3 0
R M 2022 2022 5 8 2 1
R M 2023 2023 3 19 3 0
R M 2023 2023 4 23 2 1
R M 2024 2024 3 10 3 0
R M 2024 2024 4 14 2 1
R M 2025 2025 2 23 3 0
R M 2025 2025 4 6 2 1
R M 2026 2026 2 15 3 0
R M 2026 2026 3 22 2 1
R M 2027 2027 2 7 3 0
R M 2027 2027 3 14 2 1
R M 2028 2028 1 23 3 0
R M 2028 2028 3 5 2 1
R M 2029 2029 1 14 3 0
R M 2029 2029 2 18 2 1
R M 2029 2029 12 30 3 0
R M 2030 2030 2 10 2 1
R M 2030 2030 12 22 3 0
R M 2031 2031 1 26 2 1
R M 2031 2031 12 14 3 0
R M 2032 2032 1 18 2 1
R M 2032 2032 11 28 3 0
R M 2033 2033 1 9 2 1
R M 2033 2033 11 20 3 0
R M 2033 2033 12 25 2 1
R M 2034 2034 11 5 3 0
R M 2034 2034 12 17 2 1
R M 2035 2035 10 28 3 0
R M 2035 2035 12 9 2 1
R M 2036 2036 10 19 3 0
R M 2036 2036 11 23 2 1
R M 2037 2037 10 4 3 0
R M 2037 2037 11 15 2 1
R M 2038 2038 9 26 3 0
R M 2038 2038 10 31 2 1
R M 2039 2039 9 18 3 0
R M 2039 2039 10 23 2 1
R M 2040 2040 9 2 3 0
R M 2040 2040 10 14 2 1
R M 2041 2041 8 25 3 0
R M 2041 2041 9 29 2 1
R M 2042 2042 8 10 3 0
R M 2042 2042 9 21 2 1
R M 2043 2043 8 2 3 0
R M 2043 2043 9 13 2 1
R M 2044 2044 7 24 3 0
R M 2044 2044 8 28 2 1
R M 2045 2045 7 9 3 0
R M 2045 2045 8 20 2 1
R M 2046 2046 7 1 3 0
R M 2046 2046 8 5 2 1
R M 2047 2047 6 23 3 0
R M 2047 2047 7 28 2 1
R M 2048 2048 6 7 3 0
R M 2048 2048 7 19 2 1
R M 2049 2049 5 30 3 0
R M 2049 2049 7 4 2 1
R M 2050 2050 5 15 3 0
R M 2050 2050 6 26 2 1
R M 2051 2051 5 7 3 0
R M 2051 2051 6 18 2 1
R M 2052 2052 4 28 3 0
R M 2052 2052 6 2 2 1
R M 2053 2053 4 13 3 0
R M 2053 2053 5 25 2 1
R M 2054 2054 4 5 3 0
R M 2054 2054 5 10 2 1
R M 2055 2055 3 28 3 0
R M 2055 2055 5 2 2 1
R M 2056 2056 3 12 3 0
R M 2056 2056 4 23 2 1
R M 2057 2057 3 4 3 0
R M 2057 2057 4 8 2 1
R M 2058 2058 2 17 3 0
R M 2058 2058 3 31 2 1
R M 2059 2059 2 9 3 0
R M 2059 2059 3 23 2 1
R M 2060 2060 2 1 3 0
R M 2060 2060 3 7 2 1
R M 2061 2061 1 16 3 0
R M 2061 2061 2 27 2 1
R M 2062 2062 1 8 3 0
R M 2062 2062 2 12 2 1
R M 2062 2062 12 31 3 0
R M 2063 2063 2 4 2 1
R M 2063 2063 12 16 3 0
R M 2064 2064 1 27 2 1
R M 2064 2064 12 7 3 0
R M 2065 2065 1 11 2 1
R M 2065 2065 11 22 3 0
R M 2066 2066 1 3 2 1
R M 2066 2066 11 14 3 0
R M 2066 2066 12 26 2 1
R M 2067 2067 11 6 3 0
R M 2067 2067 12 11 2 1
R M 2068 2068 10 21 3 0
R M 2068 2068 12 2 2 1
R M 2069 2069 10 13 3 0
R M 2069 2069 11 17 2 1
R M 2070 2070 10 5 3 0
R M 2070 2070 11 9 2 1
R M 2071 2071 9 20 3 0
R M 2071 2071 11 1 2 1
R M 2072 2072 9 11 3 0
R M 2072 2072 10 16 2 1
R M 2073 2073 8 27 3 0
R M 2073 2073 10 8 2 1
R M 2074 2074 8 19 3 0
R M 2074 2074 9 30 2 1
R M 2075 2075 8 11 3 0
R M 2075 2075 9 15 2 1
R M 2076 2076 7 26 3 0
R M 2076 2076 9 6 2 1
R M 2077 2077 7 18 3 0
R M 2077 2077 8 22 2 1
R M 2078 2078 7 10 3 0
R M 2078 2078 8 14 2 1
R M 2079 2079 6 25 3 0
R M 2079 2079 8 6 2 1
R M 2080 2080 6 16 3 0
R M 2080 2080 7 21 2 1
R M 2081 2081 6 1 3 0
R M 2081 2081 7 13 2 1
R M 2082 2082 5 24 3 0
R M 2082 2082 6 28 2 1
R M 2083 2083 5 16 3 0
R M 2083 2083 6 20 2 1
R M 2084 2084 4 30 3 0
R M 2084 2084 6 11 2 1
R M 2085 2085 4 22 3 0
R M 2085 2085 5 27 2 1
R M 2086 2086 4 14 3 0
R M 2086 2086 5 19 2 1
R M 2087 2087 3 30 3 0
R M 2087 2087 5 11 2 1
R MD 1997 2099 3 0$ 2 1
R MD 1997 2099 10 0$ 3 0
R MT 1973 1973 3 31 0s 1
R MT 1973 1973 9 29 0s 0
R MT 1974 1974 4 21 0s 1
R MT 1974 1974 9 16 0s 0
R MT 1975 1979 4 0>15 2 1
R MT 1975 1980 9 0>15 2 0
R MT 1980 1980 3 31 2 1
R MU 1982 1982 10 10 0 1
R MU 1983 1983 3 21 0 0
R MU 2008 2008 10 0$ 2 1
R MU 2009 2009 3 0$ 2 0
R Ma 1951 1951 4 0$ 2 1
R Ma 1951 1951 9 0$ 2 0
R Ma 1954 1960 4 0$ 2 1
R Ma 1954 1960 9 0$ 2 0
R Me 1946 1946 4 0$ 2 1
R Me 1946 1946 9 0$ 2 0
R Me 1966 1966 4 0$ 2 1
R Me 1966 1966 10 0$ 2 0
R NA 1994 1994 3 21 0 0
R NA 1994 2017 9 0>1 2 1
R NA 1995 2017 4 0>1 2 0
R NB 1935 1941 9 14 0 0:20
R NB 1935 1941 12 14 0 0
R NC 1977 1978 12 0>1 0 1
R NC 1978 1979 2 27 0 0
R NC 1996 1996 12 1 2s 1
R NC 1997 1997 3 2 2s 0
R NI 1979 1980 3 0>16 0 1
R NI 1979 1980 6 1>23 0 0
R NI 2005 2005 4 10 0 1
R NI 2005 2005 10 0>1 0 0
R NI 2006 2006 4 30 2 1
R NI 2006 2006 10 0>1 1 0
R NY 1920 1920 3 0$ 2 1
R NY 1920 1920 10 0$ 2 0
R NY 1921 1966 4 0$ 2 1
R NY 1921 1954 9 0$ 2 0
R NY 1955 1966 10 0$ 2 0
R NZ 1927 1927 11 6 2 1
R NZ 1928 1928 3 4 2 0
R NZ 1928 1933 10 0>8 2 0:30
R NZ 1929 1933 3 0>15 2 0
R NZ 1934 1940 4 0$ 2 0
R NZ 1934 1940 9 0$ 2 0:30
R NZ 1946 1946 1 1 0 0
R NZ 1974 1974 11 0>1 2s 1
R NZ 1975 1975 2 0$ 2s 0
R NZ 1975 1988 10 0$ 2s 1
R NZ 1976 1989 3 0>1 2s 0
R NZ 1989 1989 10 0>8 2s 1
R NZ 1990 2006 10 0>1 2s 1
R NZ 1990 2007 3 0>15 2s 0
R NZ 2007 2099 9 0$ 2s 1
R NZ 2008 2099 4 0>1 2s 0
R O 1918 1919 9 16 2s 0
R O 1919 1919 4 15 2s 1
R O 1944 1944 4 3 2s 1
R O 1944 1944 10 4 2 0
R O 1945 1945 4 29 0 1
R O 1945 1945 11 1 0 0
R O 1946 1946 4 14 0s 1
R O 1946 1946 10 7 2s 0
R O 1947 1947 5 4 2s 1
R O 1947 1949 10 0>1 2s 0
R O 1948 1948 4 18 2s 1
R O 1949 1949 4 10 2s 1
R O 1957 1957 6 2 1s 1
R O 1957 1958 9 0$ 1s 0
R O 1958 1958 3 30 1s 1
R O 1959 1959 5 31 1s 1
R O 1959 1961 10 0>1 1s 0
R O 1960 1960 4 3 1s 1
R O 1961 1964 5 0$ 1s 1
R O 1962 1964 9 0$ 1s 0
R P 1999 2005 4 5>15 0 1
R P 1999 2003 10 5>15 0 0
R P 2004 2004 10 1 1 0
R P 2005 2005 10 4 2 0
R P 2006 2007 4 1 0 1
R P 2006 2006 9 22 0 0
R P 2007 2007 9 13 2 0
R P 2008 2009 3 5$ 0 1
R P 2008 2008 9 1 0 0
R P 2009 2009 9 4 1 0
R P 2010 2010 3 26 0 1
R P 2010 2010 8 11 0 0
R P 2011 2011 4 1 0:1 1
R P 2011 2011 8 1 0 0
R P 2011 2011 8 30 0 1
R P 2011 2011 9 30 0 0
R P 2012 2014 3 4$ 24 1
R P 2012 2012 9 21 1 0
R P 2013 2013 9 27 0 0
R P 2014 2014 10 24 0 0
R P 2015 2015 3 28 0 1
R P 2015 2015 10 23 1 0
R P 2016 2018 3 6<30 1 1
R P 2016 2018 10 6<30 1 0
R P 2019 2019 3 29 0 1
R P 2019 2019 10 6<30 0 0
R P 2020 2021 3 6<30 0 1
R P 2020 2020 10 24 1 0
R P 2021 2021 10 29 1 0
R P 2022 2022 3 27 0 1
R P 2022 2035 10 6<30 2 0
R P 2023 2023 4 29 2 1
R P 2024 2024 4 20 2 1
R P 2025 2025 4 12 2 1
R P 2026 2054 3 6<30 2 1
R P 2036 2036 10 18 2 0
R P 2037 2037 10 10 2 0
R P 2038 2038 9 25 2 0
R P 2039 2039 9 17 2 0
R P 2040 2040 9 1 2 0
R P 2040 2040 10 20 2 1
R P 2040 2067 10 6<30 2 0
R P 2041 2041 8 24 2 0
R P 2041 2041 10 5 2 1
R P 2042 2042 8 16 2 0
R P 2042 2042 9 27 2 1
R P 2043 2043 8 1 2 0
R P 2043 2043 9 19 2 1
R P 2044 2044 7 23 2 0
R P 2044 2044 9 3 2 1
R P 2045 2045 7 15 2 0
R P 2045 2045 8 26 2 1
R P 2046 2046 6 30 2 0
R P 2046 2046 8 18 2 1
R P 2047 2047 6 22 2 0
R P 2047 2047 8 3 2 1
R P 2048 2048 6 6 2 0
R P 2048 2048 7 25 2 1
R P 2049 2049 5 29 2 0
R P 2049 2049 7 10 2 1
R P 2050 2050 5 21 2 0
R P 2050 2050 7 2 2 1
R P 2051 2051 5 6 2 0
R P 2051 2051 6 24 2 1
R P 2052 2052 4 27 2 0
R P 2052 2052 6 8 2 1
R P 2053 2053 4 12 2 0
R P 2053 2053 5 31 2 1
R P 2054 2054 4 4 2 0
R P 2054 2054 5 23 2 1
R P 2055 2055 5 8 2 1
R P 2056 2056 4 29 2 1
R P 2057 2057 4 14 2 1
R P 2058 2058 4 6 2 1
R P 2059 2099 3 6<30 2 1
R P 2068 2068 10 20 2 0
R P 2069 2069 10 12 2 0
R P 2070 2070 10 4 2 0
R P 2071 2071 9 19 2 0
R P 2072 2072 9 10 2 0
R P 2072 2072 10 22 2 1
R P 2072 2099 10 6<30 2 0
R P 2073 2073 9 2 2 0
R P 2073 2073 10 14 2 1
R P 2074 2074 8 18 2 0
R P 2074 2074 10 6 2 1
R P 2075 2075 8 10 2 0
R P 2075 2075 9 21 2 1
R P 2076 2076 7 25 2 0
R P 2076 2076 9 12 2 1
R P 2077 2077 7 17 2 0
R P 2077 2077 9 4 2 1
R P 2078 2078 7 9 2 0
R P 2078 2078 8 20 2 1
R P 2079 2079 6 24 2 0
R P 2079 2079 8 12 2 1
R P 2080 2080 6 15 2 0
R P 2080 2080 7 27 2 1
R P 2081 2081 6 7 2 0
R P 2081 2081 7 19 2 1
R P 2082 2082 5 23 2 0
R P 2082 2082 7 11 2 1
R P 2083 2083 5 15 2 0
R P 2083 2083 6 26 2 1
R P 2084 2084 4 29 2 0
R P 2084 2084 6 17 2 1
R P 2085 2085 4 21 2 0
R P 2085 2085 6 9 2 1
R P 2086 2086 4 13 2 0
R P 2086 2086 5 25 2 1
R PE 1938 1938 1 1 0 1
R PE 1938 1938 4 1 0 0
R PE 1938 1939 9 0$ 0 1
R PE 1939 1940 3 0>24 0 0
R PE 1986 1987 1 1 0 1
R PE 1986 1987 4 1 0 0
R PE 1990 1990 1 1 0 1
R PE 1990 1990 4 1 0 0
R PE 1994 1994 1 1 0 1
R PE 1994 1994 4 1 0 0
R PH 1936 1936 10 31 24 1
R PH 1937 1937 1 15 24 0
R PH 1941 1941 12 15 24 1
R PH 1945 1945 11 30 24 0
R PH 1954 1954 4 11 24 1
R PH 1954 1954 6 4 24 0
R PH 1977 1977 3 27 24 1
R PH 1977 1977 9 21 24 0
R PH 1990 1990 5 21 0 1
R PH 1990 1990 7 28 24 0
R PK 2002 2002 4 0>2 0 1
R PK 2002 2002 10 0>2 0 0
R PK 2008 2008 6 1 0 1
R PK 2008 2009 11 1 0 0
R PK 2009 2009 4 15 0 1
R Pe 1955 1955 5 1 0 1
R Pe 1955 1960 9 0$ 2 0
R Pe 1956 1963 4 0$ 2 1
R Pe 1961 1963 10 0$ 2 0
R Pi 1955 1955 5 1 0 1
R Pi 1955 1960 9 0$ 2 0
R Pi 1956 1964 4 0$ 2 1
R Pi 1961 1964 10 0$ 2 0
R Pu 1946 1960 4 0$ 2 1
R Pu 1946 1954 9 0$ 2 0
R Pu 1955 1956 10 0$ 2 0
R Pu 1957 1960 9 0$ 2 0
R Q 1928 1928 6 10 0 1
R Q 1928 1928 10 10 0 0
R Q 1940 1942 6 0>1 0 1
R Q 1940 1942 9 0>1 0 0
R Q 1945 1946 6 0>1 0 1
R Q 1945 1946 9 0>1 0 0
R Q 1965 1965 6 1 0 1
R Q 1965 1965 9 30 0 0
R Q 1966 1966 5 29 0 1
R Q 1966 1966 10 2 0 0
R Q 1967 1967 4 8 0 1
R Q 1967 1968 9 0>8 0 0
R Q 1968 1968 4 14 0 1
R Q 1969 1977 4 0$ 0 1
R Q 1969 1971 10 0$ 0 0
R Q 1972 1974 10 8 0 0
R Q 1975 1977 10 0$ 0 0
R Q 1978 1978 5 7 0 1
R Q 1978 1990 10 0>8 0 0
R Q 1979 1980 3 0>15 0 1
R Q 1981 1985 5 0>5 0 1
R Q 1986 1989 3 0>14 0 1
R Q 1990 1997 4 0>1 0 1
R Q 1991 1995 10 0>8 0s 0
R Q 1996 1996 10 6 0s 0
R Q 1997 1997 10 12 0s 0
R Q 1998 1999 3 0$ 0s 1
R Q 1998 2003 10 0$ 0s 0
R Q 2000 2003 4 0>1 0s 1
R Q 2004 2004 3 0$ 0s 1
R Q 2006 2010 10 0$ 0s 0
R Q 2007 2007 3 0>8 0s 1
R Q 2008 2008 3 0>15 0s 1
R Q 2009 2010 3 0>8 0s 1
R Q 2011 2011 3 0>15 0s 1
R Q 2011 2011 11 13 0s 0
R Q 2012 2012 4 1 0s 1
R Q 2012 2099 11 0>1 0s 0
R Q 2013 2099 3 0>8 0s 1
R R 1917 1917 7 1 23 1
R R 1917 1917 12 28 0 0
R R 1918 1918 5 31 22 2
R R 1918 1918 9 16 1 1
R R 1919 1919 5 31 23 2
R R 1919 1919 7 1 0u 1
R R 1919 1919 8 16 0 0
R R 1921 1921 2 14 23 1
R R 1921 1921 3 20 23 2
R R 1921 1921 9 1 0 1
R R 1921 1921 10 1 0 0
R R 1981 1984 4 1 0 1
R R 1981 1983 10 1 0 0
R R 1984 1995 9 0$ 2s 0
R R 1985 2010 3 0$ 2s 1
R R 1996 2010 10 0$ 2s 0
R S 1920 1923 4 0>15 2 1
R S 1920 1923 10 0>1 2 0
R S 1962 1962 4 29 2 1
R S 1962 1962 10 1 2 0
R S 1963 1965 5 1 2 1
R S 1963 1963 9 30 2 0
R S 1964 1964 10 1 2 0
R S 1965 1965 9 30 2 0
R S 1966 1966 4 24 2 1
R S 1966 1976 10 1 2 0
R S 1967 1978 5 1 2 1
R S 1977 1978 9 1 2 0
R S 1983 1984 4 9 2 1
R S 1983 1984 10 1 2 0
R S 1986 1986 2 16 2 1
R S 1986 1986 10 9 2 0
R S 1987 1987 3 1 2 1
R S 1987 1988 10 31 2 0
R S 1988 1988 3 15 2 1
R S 1989 1989 3 31 2 1
R S 1989 1989 10 1 2 0
R S 1990 1990 4 1 2 1
R S 1990 1990 9 30 2 0
R S 1991 1991 4 1 0 1
R S 1991 1992 10 1 0 0
R S 1992 1992 4 8 0 1
R S 1993 1993 3 26 0 1
R S 1993 1993 9 25 0 0
R S 1994 1996 4 1 0 1
R S 1994 2005 10 1 0 0
R S 1997 1998 3 1$ 0 1
R S 1999 2006 4 1 0 1
R S 2006 2006 9 22 0 0
R S 2007 2007 3 5$ 0 1
R S 2007 2007 11 5>1 0 0
R S 2008 2008 4 5>1 0 1
R S 2008 2008 11 1 0 0
R S 2009 2009 3 5$ 0 1
R S 2010 2011 4 5>1 0 1
R S 2012 2022 3 5$ 0 1
R S 2009 2022 10 5$ 0 0
R SA 1942 1943 9 0>15 2 1
R SA 1943 1944 3 0>15 2 0
R SD 1970 1970 5 1 0 1
R SD 1970 1985 10 15 0 0
R SD 1971 1971 4 30 0 1
R SD 1972 1985 4 0$ 0 1
R SV 1987 1988 5 0>1 0 1
R SV 1987 1988 9 0$ 0 0
R Sa 2008 2009 3 0>8 0 0
R Sa 2007 2008 10 0>8 0 1
R Sh 1919 1919 4 12 24 1
R Sh 1919 1919 9 30 24 0
R Sh 1940 1940 6 1 0 1
R Sh 1940 1940 10 12 24 0
R Sh 1941 1941 3 15 0 1
R Sh 1941 1941 11 1 24 0
R Sh 1942 1942 1 31 0 1
R Sh 1945 1945 9 1 24 0
R Sh 1946 1946 5 15 0 1
R Sh 1946 1946 9 30 24 0
R Sh 1947 1947 4 15 0 1
R Sh 1947 1947 10 31 24 0
R Sh 1948 1949 5 1 0 1
R Sh 1948 1949 9 30 24 0
R So 1945 1945 5 24 2 2
R So 1945 1945 9 24 3 1
R So 1945 1945 11 18 2s 0
R Sp 1967 1967 6 3 12 1
R Sp 1967 1967 10 1 0 0
R Sp 1974 1974 6 24 0 1
R Sp 1974 1974 9 1 0 0
R Sp 1976 1977 5 1 0 1
R Sp 1976 1976 8 1 0 0
R Sp 1977 1977 9 28 0 0
R Sp 1978 1978 6 1 0 1
R Sp 1978 1978 8 4 0 0
R St 1947 1961 4 0$ 2 1
R St 1947 1954 9 0$ 2 0
R St 1955 1956 10 0$ 2 0
R St 1957 1958 9 0$ 2 0
R St 1959 1961 10 0$ 2 0
R Sw 1957 1957 4 0$ 2 1
R Sw 1957 1957 10 0$ 2 0
R Sw 1959 1961 4 0$ 2 1
R Sw 1959 1959 10 0$ 2 0
R Sw 1960 1961 9 0$ 2 0
R T 1916 1916 5 1 0 1
R T 1916 1916 10 1 0 0
R T 1920 1920 3 28 0 1
R T 1920 1920 10 25 0 0
R T 1921 1921 4 3 0 1
R T 1921 1921 10 3 0 0
R T 1922 1922 3 26 0 1
R T 1922 1922 10 8 0 0
R T 1924 1924 5 13 0 1
R T 1924 1925 10 1 0 0
R T 1925 1925 5 1 0 1
R T 1940 1940 7 1 0 1
R T 1940 1940 10 6 0 0
R T 1940 1940 12 1 0 1
R T 1941 1941 9 21 0 0
R T 1942 1942 4 1 0 1
R T 1945 1945 10 8 0 0
R T 1946 1946 6 1 0 1
R T 1946 1946 10 1 0 0
R T 1947 1948 4 0>16 0 1
R T 1947 1951 10 0>2 0 0
R T 1949 1949 4 10 0 1
R T 1950 1950 4 16 0 1
R T 1951 1951 4 22 0 1
R T 1962 1962 7 15 0 1
R T 1963 1963 10 30 0 0
R T 1964 1964 5 15 0 1
R T 1964 1964 10 1 0 0
R T 1973 1973 6 3 1 1
R T 1973 1976 10 0>31 2 0
R T 1974 1974 3 31 2 1
R T 1975 1975 3 22 2 1
R T 1976 1976 3 21 2 1
R T 1977 1978 4 0>1 2 1
R T 1977 1978 10 0>15 2 0
R T 1978 1978 6 29 0 0
R T 1983 1983 7 31 2 1
R T 1983 1983 10 2 2 0
R T 1985 1985 4 20 1s 1
R T 1985 1985 9 28 1s 0
R T 1986 1993 3 0$ 1s 1
R T 1986 1995 9 0$ 1s 0
R T 1994 1994 3 20 1s 1
R T 1995 2006 3 0$ 1s 1
R T 1996 2006 10 0$ 1s 0
R TO 1999 1999 10 7 2s 1
R TO 2000 2000 3 19 2s 0
R TO 2000 2001 11 0>1 2 1
R TO 2001 2002 1 0$ 2 0
R TO 2016 2016 11 0>1 2 1
R TO 2017 2017 1 0>15 3 0
R Th 1991 1992 3 0$ 2 1
R Th 1991 1992 9 0$ 2 0
R Th 1993 2006 4 0>1 2 1
R Th 1993 2006 10 0$ 2 0
R Th 2007 2099 3 0>8 2 1
R Th 2007 2099 11 0>1 2 0
R Tr 2005 2099 3 0$ 1u 2
R Tr 2004 2099 10 0$ 1u 0
R U 1923 1925 10 1 0 0:30
R U 1924 1926 4 1 0 0
R U 1933 1938 10 0$ 0 0:30
R U 1934 1941 3 6$ 24 0
R U 1939 1939 10 1 0 0:30
R U 1940 1940 10 27 0 0:30
R U 1941 1941 8 1 0 0:30
R U 1942 1942 12 14 0 0:30
R U 1943 1943 3 14 0 0
R U 1959 1959 5 24 0 0:30
R U 1959 1959 11 15 0 0
R U 1960 1960 1 17 0 1
R U 1960 1960 3 6 0 0
R U 1965 1965 4 4 0 1
R U 1965 1965 9 26 0 0
R U 1968 1968 5 27 0 0:30
R U 1968 1968 12 1 0 0
R U 1970 1970 4 25 0 1
R U 1970 1970 6 14 0 0
R U 1972 1972 4 23 0 1
R U 1972 1972 7 16 0 0
R U 1974 1974 1 13 0 1:30
R U 1974 1974 3 10 0 0:30
R U 1974 1974 9 1 0 0
R U 1974 1974 12 22 0 1
R U 1975 1975 3 30 0 0
R U 1976 1976 12 19 0 1
R U 1977 1977 3 6 0 0
R U 1977 1977 12 4 0 1
R U 1978 1979 3 0>1 0 0
R U 1978 1978 12 17 0 1
R U 1979 1979 4 29 0 1
R U 1980 1980 3 16 0 0
R U 1987 1987 12 14 0 1
R U 1988 1988 2 28 0 0
R U 1988 1988 12 11 0 1
R U 1989 1989 3 5 0 0
R U 1989 1989 10 29 0 1
R U 1990 1990 2 25 0 0
R U 1990 1991 10 0>21 0 1
R U 1991 1992 3 0>1 0 0
R U 1992 1992 10 18 0 1
R U 1993 1993 2 28 0 0
R U 2004 2004 9 19 0 1
R U 2005 2005 3 27 2 0
R U 2005 2005 10 9 2 1
R U 2006 2015 3 0>8 2 0
R U 2006 2014 10 0>1 2 1
R V 1946 1946 4 0$ 2 1
R V 1946 1946 9 0$ 2 0
R V 1953 1954 4 0$ 2 1
R V 1953 1959 9 0$ 2 0
R V 1955 1955 5 1 0 1
R V 1956 1963 4 0$ 2 1
R V 1960 1960 10 0$ 2 0
R V 1961 1961 9 0$ 2 0
R V 1962 1963 10 0$ 2 0
R VU 1973 1973 12 22 12u 1
R VU 1974 1974 3 30 12u 0
R VU 1983 1991 9 6>22 24 1
R VU 1984 1991 3 6>22 24 0
R VU 1992 1993 1 6>22 24 0
R VU 1992 1992 10 6>22 24 1
R Va 1918 1918 4 14 2 1
R Va 1918 1918 10 27 2 0
R Va 1942 1942 2 9 2 1
R Va 1945 1945 8 14 23u 1
R Va 1945 1945 9 30 2 0
R Va 1946 1986 4 0$ 2 1
R Va 1946 1946 9 29 2 0
R Va 1947 1961 9 0$ 2 0
R Va 1962 2006 10 0$ 2 0
R W 1916 1916 4 23 0 1
R W 1916 1916 9 17 0 0
R W 1918 1918 4 14 2 1
R W 1918 1918 10 27 2 0
R W 1937 1937 5 16 2 1
R W 1937 1937 9 26 2 0
R W 1942 1942 2 9 2 1
R W 1945 1945 8 14 23u 1
R W 1945 1945 9 0$ 2 0
R W 1946 1946 5 12 2 1
R W 1946 1946 10 13 2 0
R W 1947 1949 4 0$ 2 1
R W 1947 1949 9 0$ 2 0
R W 1950 1950 5 1 2 1
R W 1950 1950 9 30 2 0
R W 1951 1960 4 0$ 2 1
R W 1951 1958 9 0$ 2 0
R W 1959 1959 10 0$ 2 0
R W 1960 1960 9 0$ 2 0
R W 1963 1963 4 0$ 2 1
R W 1963 1963 9 22 2 0
R W 1966 1986 4 0$ 2s 1
R W 1966 2005 10 0$ 2s 0
R W 1987 2005 4 0>1 2s 1
R W- 1977 1980 4 0>1 1s 1
R W- 1977 1977 9 0$ 1s 0
R W- 1978 1978 10 1 1s 0
R W- 1979 1995 9 0$ 1s 0
R W- 1981 2099 3 0$ 1s 1
R W- 1996 2099 10 0$ 1s 0
R WS 2010 2010 9 0$ 0 1
R WS 2011 2011 4 6>1 4 0
R WS 2011 2011 9 6$ 3 1
R WS 2012 2021 4 0>1 4 0
R WS 2012 2020 9 0$ 3 1
R X 1983 1984 4 1 0 1
R X 1983 1983 10 1 0 0
R X 1985 1998 3 0$ 0 1
R X 1984 1998 9 0$ 0 0
R X 2001 2001 4 6$ 2 1
R X 2001 2006 9 6$ 2 0
R X 2002 2006 3 6$ 2 1
R X 2015 2016 3 6$ 2 1
R X 2015 2016 9 6$ 0 0
R Y 1918 1918 4 14 2 1
R Y 1918 1918 10 27 2 0
R Y 1919 1919 5 25 2 1
R Y 1919 1919 11 1 0 0
R Y 1942 1942 2 9 2 1
R Y 1945 1945 8 14 23u 1
R Y 1945 1945 9 30 2 0
R Y 1972 1986 4 0$ 2 1
R Y 1972 2006 10 0$ 2 0
R Y 1987 2006 4 0>1 2 1
R Yu 1965 1965 4 0$ 0 2
R Yu 1965 1965 10 0$ 2 0
R Z 1940 1940 5 31 24u 1
R Z 1940 1940 9 30 24u 0
R Z 1940 1940 11 16 24u 1
R Z 1942 1946 10 31 24u 0
R Z 1943 1944 3 31 24u 1
R Z 1945 1946 4 15 24u 1
R Z 1948 1948 5 22 24u 2
R Z 1948 1948 8 31 24u 1
R Z 1948 1949 10 31 24u 0
R Z 1949 1949 4 30 24u 1
R Z 1950 1950 4 15 24u 1
R Z 1950 1950 9 14 24u 0
R Z 1951 1951 3 31 24u 1
R Z 1951 1951 11 10 24u 0
R Z 1952 1952 4 19 24u 1
R Z 1952 1952 10 18 24u 0
R Z 1953 1953 4 11 24u 1
R Z 1953 1953 9 12 24u 0
R Z 1954 1954 6 12 24u 1
R Z 1954 1954 9 11 24u 0
R Z 1955 1955 6 11 24u 1
R Z 1955 1955 9 10 24u 0
R Z 1956 1956 6 2 24u 1
R Z 1956 1956 9 29 24u 0
R Z 1957 1957 4 27 24u 1
R Z 1957 1957 9 21 24u 0
R Z 1974 1974 7 6 24 1
R Z 1974 1974 10 12 24 0
R Z 1975 1975 4 19 24 1
R Z 1975 1975 8 30 24 0
R Z 1980 1980 8 2 24s 1
R Z 1980 1980 9 13 24s 0
R Z 1984 1984 5 5 24s 1
R Z 1984 1984 8 25 24s 0
R Z 1985 1985 4 13 24 1
R Z 1985 1985 8 31 24 0
R Z 1986 1986 5 17 24 1
R Z 1986 1986 9 6 24 0
R Z 1987 1987 4 14 24 1
R Z 1987 1987 9 12 24 0
R Z 1988 1988 4 9 24 1
R Z 1988 1988 9 3 24 0
R Z 1989 1989 4 29 24 1
R Z 1989 1989 9 2 24 0
R Z 1990 1990 3 24 24 1
R Z 1990 1990 8 25 24 0
R Z 1991 1991 3 23 24 1
R Z 1991 1991 8 31 24 0
R Z 1992 1992 3 28 24 1
R Z 1992 1992 9 5 24 0
R Z 1993 1993 4 2 0 1
R Z 1993 1993 9 5 0 0
R Z 1994 1994 4 1 0 1
R Z 1994 1994 8 28 0 0
R Z 1995 1995 3 31 0 1
R Z 1995 1995 9 3 0 0
R Z 1996 1996 3 14 24 1
R Z 1996 1996 9 15 24 0
R Z 1997 1997 3 20 24 1
R Z 1997 1997 9 13 24 0
R Z 1998 1998 3 20 0 1
R Z 1998 1998 9 6 0 0
R Z 1999 1999 4 2 2 1
R Z 1999 1999 9 3 2 0
R Z 2000 2000 4 14 2 1
R Z 2000 2000 10 6 1 0
R Z 2001 2001 4 9 1 1
R Z 2001 2001 9 24 1 0
R Z 2002 2002 3 29 1 1
R Z 2002 2002 10 7 1 0
R Z 2003 2003 3 28 1 1
R Z 2003 2003 10 3 1 0
R Z 2004 2004 4 7 1 1
R Z 2004 2004 9 22 1 0
R Z 2005 2012 4 5<1 2 1
R Z 2005 2005 10 9 2 0
R Z 2006 2006 10 1 2 0
R Z 2007 2007 9 16 2 0
R Z 2008 2008 10 5 2 0
R Z 2009 2009 9 27 2 0
R Z 2010 2010 9 12 2 0
R Z 2011 2011 10 2 2 0
R Z 2012 2012 9 23 2 0
R Z 2013 2099 3 5>23 2 1
R Z 2013 2099 10 0$ 2 0
R _ 1942 1943 4 30 23 1
R _ 1942 1942 11 17 23 0
R _ 1943 1943 9 30 23 0
R _ 1946 1946 4 30 23s 1
R _ 1946 1946 9 30 23s 0
R _ 1947 1947 4 19 23s 1
R _ 1947 1947 11 30 23s 0
R _ 1948 1948 5 2 23s 1
R _ 1948 1948 10 31 23s 0
R _ 1949 1950 4 6>1 23s 1
R _ 1949 1950 10 6$ 23s 0
R _ 1951 1951 3 31 23s 1
R _ 1951 1951 10 28 23s 0
R _ 1952 1953 4 6>1 23s 1
R _ 1952 1952 11 1 23s 0
R _ 1953 1954 10 6$ 23s 0
R _ 1954 1956 3 6>17 23s 1
R _ 1955 1955 11 5 23s 0
R _ 1956 1964 11 0>1 3:30 0
R _ 1957 1964 3 0>18 3:30 1
R _ 1965 1973 4 0>16 3:30 1
R _ 1965 1966 10 0>16 2:30 0
R _ 1967 1976 10 0>16 3:30 0
R _ 1973 1973 12 30 3:30 1
R _ 1975 1976 4 0>16 3:30 1
R _ 1979 1979 5 13 3:30 1
R _ 1979 1979 10 0>16 3:30 0
R a 1920 1920 4 5 2s 1
R a 1920 1920 9 13 2s 0
R a 1946 1946 4 14 2s 1
R a 1946 1946 10 7 2s 0
R a 1947 1948 10 0>1 2s 0
R a 1947 1947 4 6 2s 1
R a 1948 1948 4 18 2s 1
R a 1980 1980 4 6 0 1
R a 1980 1980 9 28 0 0
R b 1918 1918 3 9 0s 1
R b 1918 1919 10 6>1 23s 0
R b 1919 1919 3 1 23s 1
R b 1920 1920 2 14 23s 1
R b 1920 1920 10 23 23s 0
R b 1921 1921 3 14 23s 1
R b 1921 1921 10 25 23s 0
R b 1922 1922 3 25 23s 1
R b 1922 1927 10 6>1 23s 0
R b 1923 1923 4 21 23s 1
R b 1924 1924 3 29 23s 1
R b 1925 1925 4 4 23s 1
R b 1926 1926 4 17 23s 1
R b 1927 1927 4 9 23s 1
R b 1928 1928 4 14 23s 1
R b 1928 1938 10 0>2 2s 0
R b 1929 1929 4 21 2s 1
R b 1930 1930 4 13 2s 1
R b 1931 1931 4 19 2s 1
R b 1932 1932 4 3 2s 1
R b 1933 1933 3 26 2s 1
R b 1934 1934 4 8 2s 1
R b 1935 1935 3 31 2s 1
R b 1936 1936 4 19 2s 1
R b 1937 1937 4 4 2s 1
R b 1938 1938 3 27 2s 1
R b 1939 1939 4 16 2s 1
R b 1939 1939 11 19 2s 0
R b 1940 1940 2 25 2s 1
R b 1944 1944 9 17 2s 0
R b 1945 1945 4 2 2s 1
R b 1945 1945 9 16 2s 0
R b 1946 1946 5 19 2s 1
R b 1946 1946 10 7 2s 0
R c 1916 1916 4 30 23 1
R c 1916 1916 10 1 1 0
R c 1917 1918 4 1>15 2s 1
R c 1917 1918 9 1>15 2s 0
R c 1940 1940 4 1 2s 1
R c 1942 1942 11 2 2s 0
R c 1943 1943 3 29 2s 1
R c 1943 1943 10 4 2s 0
R c 1944 1945 4 1>1 2s 1
R c 1944 1944 10 2 2s 0
R c 1945 1945 9 16 2s 0
R c 1977 1980 4 0>1 2s 1
R c 1977 1977 9 0$ 2s 0
R c 1978 1978 10 1 2s 0
R c 1979 1995 9 0$ 2s 0
R c 1981 2099 3 0$ 2s 1
R c 1996 2099 10 0$ 2s 0
R d 1916 1916 6 14 23s 1
R d 1916 1919 10 0>1 23s 0
R d 1917 1917 3 24 23s 1
R d 1918 1918 3 9 23s 1
R d 1919 1919 3 1 23s 1
R d 1920 1920 2 14 23s 1
R d 1920 1920 10 23 23s 0
R d 1921 1921 3 14 23s 1
R d 1921 1921 6 21 23s 0
R d 1939 1939 9 11 23s 1
R d 1939 1939 11 19 1 0
R d 1944 1945 4 1>1 2 1
R d 1944 1944 10 8 2 0
R d 1945 1945 9 16 1 0
R d 1971 1971 4 25 23s 1
R d 1971 1971 9 26 23s 0
R d 1977 1977 5 6 0 1
R d 1977 1977 10 21 0 0
R d 1978 1978 3 24 1 1
R d 1978 1978 9 22 3 0
R d 1980 1980 4 25 0 1
R d 1980 1980 10 31 2 0
R e 1977 1980 4 0>1 0 1
R e 1977 1977 9 0$ 0 0
R e 1978 1978 10 1 0 0
R e 1979 1995 9 0$ 0 0
R e 1981 2099 3 0$ 0 1
R e 1996 2099 10 0$ 0 0
R f 1946 1946 5 15 0 1
R f 1946 1946 10 1 0 0
R f 1947 1947 4 15 0 1
R f 1947 1947 11 1 0 0
R f 1948 1951 5 1 0 1
R f 1948 1951 10 1 0 0
R f 1952 1952 3 1 0 1
R f 1952 1954 11 1 0 0
R f 1953 1959 4 1 0 1
R f 1955 1961 10 1 0 0
R f 1960 1961 6 1 0 1
R f 1974 1975 4 1 0 1
R f 1974 1975 10 1 0 0
R f 1979 1979 7 1 0 1
R f 1979 1979 10 1 0 0
R g 1932 1932 7 7 0 1
R g 1932 1932 9 1 0 0
R g 1941 1941 4 7 0 1
R g 1942 1942 11 2 3 0
R g 1943 1943 3 30 0 1
R g 1943 1943 10 4 0 0
R g 1952 1952 7 1 0 1
R g 1952 1952 11 2 0 0
R g 1975 1975 4 12 0s 1
R g 1975 1975 11 26 0s 0
R g 1976 1976 4 11 2s 1
R g 1976 1976 10 10 2s 0
R g 1977 1978 4 0>1 2s 1
R g 1977 1977 9 26 2s 0
R g 1978 1978 9 24 4 0
R g 1979 1979 4 1 9 1
R g 1979 1979 9 29 2 0
R g 1980 1980 4 1 0 1
R g 1980 1980 9 28 0 0
R h 1918 1919 4 15 2 1
R h 1918 1920 9 1>15 3 0
R h 1920 1920 4 5 2 1
R h 1945 1945 5 1 23 1
R h 1945 1945 11 1 1 0
R h 1946 1946 3 31 2s 1
R h 1946 1946 10 7 2 0
R h 1947 1949 4 0>4 2s 1
R h 1947 1949 10 0>1 2s 0
R h 1954 1954 5 23 0 1
R h 1954 1954 10 3 0 0
R h 1955 1955 5 22 2 1
R h 1955 1955 10 2 3 0
R h 1956 1957 6 0>1 2 1
R h 1956 1957 9 0$ 3 0
R h 1980 1980 4 6 0 1
R h 1980 1980 9 28 1 0
R h 1981 1983 3 0$ 0 1
R h 1981 1983 9 0$ 1 0
R i 1910 1910 1 1 0 0
R i 1977 1977 3 21 23 1
R i 1977 1977 10 20 24 0
R i 1978 1978 3 24 24 1
R i 1978 1978 8 5 1 0
R i 1979 1979 5 26 24 1
R i 1979 1979 9 18 24 0
R i 1980 1980 3 20 24 1
R i 1980 1980 9 22 24 0
R i 1991 1991 5 2 24 1
R i 1992 1995 3 21 24 1
R i 1991 1995 9 21 24 0
R i 1996 1996 3 20 24 1
R i 1996 1996 9 20 24 0
R i 1997 1999 3 21 24 1
R i 1997 1999 9 21 24 0
R i 2000 2000 3 20 24 1
R i 2000 2000 9 20 24 0
R i 2001 2003 3 21 24 1
R i 2001 2003 9 21 24 0
R i 2004 2004 3 20 24 1
R i 2004 2004 9 20 24 0
R i 2005 2005 3 21 24 1
R i 2005 2005 9 21 24 0
R i 2008 2008 3 20 24 1
R i 2008 2008 9 20 24 0
R i 2009 2011 3 21 24 1
R i 2009 2011 9 21 24 0
R i 2012 2012 3 20 24 1
R i 2012 2012 9 20 24 0
R i 2013 2015 3 21 24 1
R i 2013 2015 9 21 24 0
R i 2016 2016 3 20 24 1
R i 2016 2016 9 20 24 0
R i 2017 2019 3 21 24 1
R i 2017 2019 9 21 24 0
R i 2020 2020 3 20 24 1
R i 2020 2020 9 20 24 0
R i 2021 2022 3 21 24 1
R i 2021 2022 9 21 24 0
R j 1917 1917 4 8 2 1
R j 1917 1917 9 17 2 0
R j 1919 1919 5 5 23 1
R j 1919 1919 8 12 23 0
R j 1920 1935 5 0>1 23 1
R j 1920 1935 10 0$ 23 0
R j 1936 1941 5 1>9 0 1
R j 1936 1941 10 1>2 0 0
R j 1946 1950 5 0>8 2 1
R j 1946 1950 10 0>2 2 0
R j 1951 1986 4 0$ 2 1
R j 1951 1959 9 0$ 2 0
R j 1960 1986 10 0$ 2 0
R j 1987 1987 4 0>1 0:1 1
R j 1987 2006 10 0$ 0:1 0
R j 1988 1988 4 0>1 0:1 2
R j 1989 2006 4 0>1 0:1 1
R j 2007 2011 3 0>8 0:1 1
R j 2007 2010 11 0>1 0:1 0
R k 1974 1974 11 0>1 2:45s 1
R k 1975 1975 2 0$ 2:45s 0
R k 1975 1988 10 0$ 2:45s 1
R k 1976 1989 3 0>1 2:45s 0
R k 1989 1989 10 0>8 2:45s 1
R k 1990 2006 10 0>1 2:45s 1
R k 1990 2007 3 0>15 2:45s 0
R k 2007 2099 9 0$ 2:45s 1
R k 2008 2099 4 0>1 2:45s 0
R l 1920 1920 3 28 0 1
R l 1920 1920 10 25 0 0
R l 1921 1921 4 3 0 1
R l 1921 1921 10 3 0 0
R l 1922 1922 3 26 0 1
R l 1922 1922 10 8 0 0
R l 1923 1923 4 22 0 1
R l 1923 1923 9 16 0 0
R l 1957 1961 5 1 0 1
R l 1957 1961 10 1 0 0
R l 1972 1972 6 22 0 1
R l 1972 1977 10 1 0 0
R l 1973 1977 5 1 0 1
R l 1978 1978 4 30 0 1
R l 1978 1978 9 30 0 0
R l 1984 1987 5 1 0 1
R l 1984 1991 10 16 0 0
R l 1988 1988 6 1 0 1
R l 1989 1989 5 10 0 1
R l 1990 1992 5 1 0 1
R l 1992 1992 10 4 0 0
R l 1993 2099 3 0$ 0 1
R l 1993 1998 9 0$ 0 0
R l 1999 2099 10 0$ 0 0
R m 1931 1931 4 30 0 1
R m 1931 1931 10 1 0 0
R m 1939 1939 2 5 0 1
R m 1939 1939 6 25 0 0
R m 1940 1940 12 9 0 1
R m 1941 1941 4 1 0 0
R m 1943 1943 12 16 0 1
R m 1944 1944 5 1 0 0
R m 1950 1950 2 12 0 1
R m 1950 1950 7 30 0 0
R m 1996 2000 4 0>1 2 1
R m 1996 2000 10 0$ 2 0
R m 2001 2001 5 0>1 2 1
R m 2001 2001 9 0$ 2 0
R m 2002 2022 4 0>1 2 1
R m 2002 2022 10 0$ 2 0
R n 1939 1939 4 15 23s 1
R n 1939 1939 11 18 23s 0
R n 1940 1940 2 25 23s 1
R n 1941 1941 10 6 0 0
R n 1942 1942 3 9 0 1
R n 1942 1942 11 2 3 0
R n 1943 1943 3 29 2 1
R n 1943 1943 4 17 2 0
R n 1943 1943 4 25 2 1
R n 1943 1943 10 4 2 0
R n 1944 1945 4 1>1 2 1
R n 1944 1944 10 8 0 0
R n 1945 1945 9 16 0 0
R n 1977 1977 4 30 0s 1
R n 1977 1977 9 24 0s 0
R n 1978 1978 5 1 0s 1
R n 1978 1978 10 1 0s 0
R n 1988 1988 6 1 0s 1
R n 1988 1990 9 0$ 0s 0
R n 1989 1989 3 26 0s 1
R n 1990 1990 5 1 0s 1
R n 2005 2005 5 1 0s 1
R n 2005 2005 9 30 1s 0
R n 2006 2008 3 0$ 2s 1
R n 2006 2008 10 0$ 2s 0
R o 1933 1935 6 0>8 1 1
R o 1933 1935 9 0>8 1 0
R o 1936 1938 6 0>1 1 1
R o 1936 1938 9 0>1 1 0
R o 1939 1939 5 27 1 1
R o 1939 1941 9 6>21 1 0
R o 1940 1940 5 19 1 1
R o 1941 1941 5 4 1 1
R o 1946 1972 4 0$ 2 1
R o 1946 1956 9 0$ 2 0
R o 1957 1972 10 0$ 2 0
R o 1993 2006 4 0>1 0:1 1
R o 1993 2006 10 0$ 0:1 0
R p 1916 1916 6 17 23 1
R p 1916 1916 11 1 1 0
R p 1917 1921 3 1 0 1
R p 1917 1921 10 14 24 0
R p 1924 1924 4 16 23s 1
R p 1924 1924 10 4 23s 0
R p 1926 1926 4 17 23s 1
R p 1926 1929 10 6>1 23s 0
R p 1927 1927 4 9 23s 1
R p 1928 1928 4 14 23s 1
R p 1929 1929 4 20 23s 1
R p 1931 1931 4 18 23s 1
R p 1931 1932 10 6>1 23s 0
R p 1932 1932 4 2 23s 1
R p 1934 1934 4 7 23s 1
R p 1934 1938 10 6>1 23s 0
R p 1935 1935 3 30 23s 1
R p 1936 1936 4 18 23s 1
R p 1937 1937 4 3 23s 1
R p 1938 1938 3 26 23s 1
R p 1939 1939 4 15 23s 1
R p 1939 1939 11 18 23s 0
R p 1940 1940 2 24 23s 1
R p 1940 1940 10 7 23s 0
R p 1941 1941 4 5 23s 1
R p 1941 1941 10 5 23s 0
R p 1942 1945 3 6>8 23s 1
R p 1942 1942 4 25 22s 2
R p 1942 1942 8 15 22s 1
R p 1942 1945 10 6>24 23s 0
R p 1943 1943 4 17 22s 2
R p 1943 1945 8 6>25 22s 1
R p 1944 1945 4 6>21 22s 2
R p 1946 1946 4 6>1 23s 1
R p 1946 1946 10 6>1 23s 0
R p 1947 1966 4 0>1 2s 1
R p 1947 1965 10 0>1 2s 0
R p 1976 1976 9 0$ 1 0
R p 1977 1977 3 0$ 0s 1
R p 1977 1977 9 0$ 0s 0
R p 1978 1980 4 0>1 1s 1
R p 1978 1978 10 1 1s 0
R p 1979 1980 9 0$ 1s 0
R p 1981 1986 3 0$ 0s 1
R p 1981 1985 9 0$ 0s 0
R q 1940 1940 6 16 0 1
R q 1942 1942 11 2 3 0
R q 1943 1943 3 29 2 1
R q 1943 1943 4 10 3 0
R q 1974 1974 5 4 0 1
R q 1974 1974 10 2 0 0
R q 1975 1975 5 1 0 1
R q 1975 1975 10 2 0 0
R q 1976 1976 5 2 0 1
R q 1976 1976 10 3 0 0
R q 1977 1977 5 8 0 1
R q 1977 1977 10 2 0 0
R q 1978 1978 5 6 0 1
R q 1978 1978 10 1 0 0
R q 1979 1979 5 5 0 1
R q 1979 1979 9 30 0 0
R q 1980 1980 5 3 0 1
R q 1980 1980 10 4 0 0
R q 1981 1981 4 26 0 1
R q 1981 1981 9 27 0 0
R q 1982 1982 5 2 0 1
R q 1982 1982 10 3 0 0
R q 1983 1983 4 18 0 1
R q 1983 1983 10 1 0 0
R q 1984 1984 4 1 0 1
R r 1918 1918 4 14 2 1
R r 1918 1918 10 27 2 0
R r 1930 1934 5 0>1 0 1
R r 1930 1934 10 0>1 0 0
R r 1937 1941 4 0>8 0 1
R r 1937 1937 10 0>8 0 0
R r 1938 1938 10 0>1 0 0
R r 1939 1941 10 0>8 0 0
R r 1942 1942 2 9 2 1
R r 1945 1945 8 14 23u 1
R r 1945 1945 9 0$ 2 0
R r 1946 1946 4 0>8 2 1
R r 1946 1946 10 0>8 2 0
R r 1947 1957 4 0$ 2 1
R r 1947 1957 9 0$ 2 0
R r 1959 1959 4 0$ 2 1
R r 1959 1959 10 0$ 2 0
R s 1918 1918 4 15 23 1
R s 1918 1919 10 6 24s 0
R s 1919 1919 4 6 23 1
R s 1924 1924 4 16 23 1
R s 1924 1924 10 4 24s 0
R s 1926 1926 4 17 23 1
R s 1926 1929 10 6>1 24s 0
R s 1927 1927 4 9 23 1
R s 1928 1928 4 15 0 1
R s 1929 1929 4 20 23 1
R s 1937 1937 6 16 23 1
R s 1937 1937 10 2 24s 0
R s 1938 1938 4 2 23 1
R s 1938 1938 4 30 23 2
R s 1938 1938 10 2 24 1
R s 1939 1939 10 7 24s 0
R s 1942 1942 5 2 23 1
R s 1942 1942 9 1 1 0
R s 1943 1946 4 6>13 23 1
R s 1943 1944 10 0>1 1 0
R s 1945 1946 9 0$ 1 0
R s 1949 1949 4 30 23 1
R s 1949 1949 10 2 1 0
R s 1974 1975 4 6>12 23 1
R s 1974 1975 10 0>1 1 0
R s 1976 1976 3 27 23 1
R s 1976 1977 9 0$ 1 0
R s 1977 1977 4 2 23 1
R s 1978 1978 4 2 2s 1
R s 1978 1978 10 1 2s 0
R t 1919 1919 3 30 23:30 1
R t 1919 1919 10 26 0 0
R t 1920 1920 5 2 2 1
R t 1920 1920 9 26 0 0
R t 1921 1921 5 15 2 1
R t 1921 1921 9 15 2 0
R t 1922 1923 5 0>8 2 1
R t 1922 1926 9 0>15 2 0
R t 1924 1927 5 0>1 2 1
R t 1927 1937 9 0>25 2 0
R t 1928 1937 4 0>25 2 1
R t 1938 1940 4 0$ 2 1
R t 1938 1939 9 0$ 2 0
R t 1945 1948 9 0$ 2 0
R t 1946 1973 4 0$ 2 1
R t 1949 1950 11 0$ 2 0
R t 1951 1956 9 0$ 2 0
R t 1957 1973 10 0$ 2 0
R u 1918 1919 3 0$ 2 1
R u 1918 1919 10 0$ 2 0
R u 1942 1942 2 9 2 1
R u 1945 1945 8 14 23u 1
R u 1945 1945 9 30 2 0
R u 1967 2006 10 0$ 2 0
R u 1967 1973 4 0$ 2 1
R u 1974 1974 1 6 2 1
R u 1975 1975 2 0$ 2 1
R u 1976 1986 4 0$ 2 1
R u 1987 2006 4 0>1 2 1
R u 2007 2099 3 0>8 2 1
R u 2007 2099 11 0>1 2 0
R v 1921 1921 5 1 2 1
R v 1921 1921 9 1 2 0
R v 1941 1941 4 0$ 2 1
R v 1941 1941 9 0$ 2 0
R v 1946 1946 4 0$ 0:1 1
R v 1946 1946 6 2 2 0
R v 1950 1961 4 0$ 2 1
R v 1950 1955 9 0$ 2 0
R v 1956 1961 10 0$ 2 0
R x 1927 1931 9 1 0 1
R x 1928 1932 4 1 0 0
R x 1968 1968 11 3 4u 1
R x 1969 1969 3 30 3u 0
R x 1969 1969 11 23 4u 1
R x 1970 1970 3 29 3u 0
R x 1971 1971 3 14 3u 0
R x 1970 1972 10 0>9 4u 1
R x 1972 1986 3 0>9 3u 0
R x 1973 1973 9 30 4u 1
R x 1974 1987 10 0>9 4u 1
R x 1987 1987 4 12 3u 0
R x 1988 1990 3 0>9 3u 0
R x 1988 1989 10 0>9 4u 1
R x 1990 1990 9 16 4u 1
R x 1991 1996 3 0>9 3u 0
R x 1991 1997 10 0>9 4u 1
R x 1997 1997 3 30 3u 0
R x 1998 1998 3 0>9 3u 0
R x 1998 1998 9 27 4u 1
R x 1999 1999 4 4 3u 0
R x 1999 2010 10 0>9 4u 1
R x 2000 2007 3 0>9 3u 0
R x 2008 2008 3 30 3u 0
R x 2009 2009 3 0>9 3u 0
R x 2010 2010 4 0>1 3u 0
R x 2011 2011 5 0>2 3u 0
R x 2011 2011 8 0>16 4u 1
R x 2012 2014 4 0>23 3u 0
R x 2012 2014 9 0>2 4u 1
R x 2016 2018 5 0>9 3u 0
R x 2016 2018 8 0>9 4u 1
R x 2019 2099 4 0>2 3u 0
R x 2019 2021 9 0>2 4u 1
R x 2022 2022 9 0>9 4u 1
R x 2023 2099 9 0>2 4u 1
R y 1975 1988 10 1 0 1
R y 1975 1978 3 1 0 0
R y 1979 1991 4 1 0 0
R y 1989 1989 10 22 0 1
R y 1990 1990 10 1 0 1
R y 1991 1991 10 6 0 1
R y 1992 1992 3 1 0 0
R y 1992 1992 10 5 0 1
R y 1993 1993 3 31 0 0
R y 1993 1995 10 1 0 1
R y 1994 1995 2 0$ 0 0
R y 1996 1996 3 1 0 0
R y 1996 2001 10 0>1 0 1
R y 1997 1997 2 0$ 0 0
R y 1998 2001 3 0>1 0 0
R y 2002 2004 4 0>1 0 0
R y 2002 2003 9 0>1 0 1
R y 2004 2009 10 0>15 0 1
R y 2005 2009 3 0>8 0 0
R y 2010 2024 10 0>1 0 1
R y 2010 2012 4 0>8 0 0
R y 2013 2024 3 0>22 0 0
R z 1932 1932 5 21 0s 1
R z 1932 1939 10 0>1 0s 0
R z 1933 1939 4 0>2 0s 1
R z 1979 1979 5 27 0 1
R z 1979 1979 9 0$ 0 0
R z 1980 1980 4 5 23 1
R z 1980 1980 9 0$ 1 0
R z 1991 1993 3 0$ 0s 1
R z 1991 1993 9 0$ 0s 0
Z Africa/Abidjan
-0:16:8 - 1912
0 -
Z Africa/Algiers
0:12:12 - 1891 3 16
0:9:21 - 1911 3 11
0 d 1940 2 25 2
1 d 1946 10 7
0 - 1956 1 29
1 - 1963 4 14
0 d 1977 10 21
1 d 1979 10 26
0 d 1981 5
1 -
Z Africa/Bissau
-1:2:20 - 1912 1 1 1u
-1 - 1975
0 -
Z Africa/Cairo
2:5:9 - 1900 10
2 K
Z Africa/Casablanca
-0:30:20 - 1913 10 26
0 M 1984 3 16
1 - 1986
0 M 2018 10 28 3
0 M
Z Africa/Ceuta
-0:21:16 - 1901 1 1 0u
0 - 1918 5 6 23
0 1 1918 10 7 23
0 - 1924
0 s 1929
0 - 1967
0 Sp 1984 3 16
1 - 1986
1 E
Z Africa/El_Aaiun
-0:52:48 - 1934
-1 - 1976 4 14
0 M 2018 10 28 3
0 M
Z Africa/Johannesburg
1:52 - 1892 2 8
1:30 - 1903 3
2 SA
Z Africa/Juba
2:6:28 - 1931
2 SD 2000 1 15 12
3 - 2021 2
2 -
Z Africa/Khartoum
2:10:8 - 1931
2 SD 2000 1 15 12
3 - 2017 11
2 -
Z Africa/Lagos
0:13:35 - 1905 7
0 - 1908 7
0:13:35 - 1914
0:30 - 1919 9
1 -
Z Africa/Maputo
2:10:18 - 1909
2 -
Z Africa/Monrovia
-0:43:8 - 1882
-0:43:8 - 1919 3
-0:44:30 - 1972 1 7
0 -
Z Africa/Nairobi
2:27:16 - 1908 5
2:30 - 1928 6 30 24
3 - 1930 1 4 24
2:30 - 1936 12 31 24
2:45 - 1942 7 31 24
3 -
Z Africa/Ndjamena
1:0:12 - 1912
1 - 1979 10 14
1 1 1980 3 8
1 -
Z Africa/Sao_Tome
0:26:56 - 1884
-0:36:45 - 1912 1 1 0u
0 - 2018 1 1 1
1 - 2019 1 1 2
0 -
Z Africa/Tripoli
0:52:44 - 1920
1 L 1959
2 - 1982
1 L 1990 5 4
2 - 1996 9 30
1 L 1997 10 4
2 - 2012 11 10 2
1 L 2013 10 25 2
2 -
Z Africa/Tunis
0:40:44 - 1881 5 12
0:9:21 - 1911 3 11
1 n
Z Africa/Windhoek
1:8:24 - 1892 2 8
1:30 - 1903 3
2 - 1942 9 20 2
2 1 1943 3 21 2
2 - 1990 3 21
2 - 1994 3 21
1 NA 2017 10 24
2 -
Z America/Adak
12:13:22 - 1867 10 19 12:44:35
-11:46:38 - 1900 8 20 12
-11 - 1942
-11 u 1946
-11 - 1967 4
-11 - 1969
-11 u 1983 10 30 2
-10 u 1983 11 30
-10 u
Z America/Anchorage
14:0:24 - 1867 10 19 14:31:37
-9:59:36 - 1900 8 20 12
-10 - 1942
-10 u 1967 4
-10 - 1969
-10 u 1983 10 30 2
-9 u 1983 11 30
-9 u
Z America/Araguaina
-3:12:48 - 1914
-3 B 1990 9 17
-3 - 1995 9 14
-3 B 2003 9 24
-3 - 2012 10 21
-3 B 2013 9
-3 -
Z America/Argentina/Buenos_Aires
-3:53:48 - 1894 10 31
-4:16:48 - 1920 5
-4 - 1930 12
-4 A 1969 10 5
-3 A 1999 10 3
-4 A 2000 3 3
-3 A
Z America/Argentina/Catamarca
-4:23:8 - 1894 10 31
-4:16:48 - 1920 5
-4 - 1930 12
-4 A 1969 10 5
-3 A 1991 3 3
-4 - 1991 10 20
-3 A 1999 10 3
-4 A 2000 3 3
-3 - 2004 6
-4 - 2004 6 20
-3 A 2008 10 18
-3 -
Z America/Argentina/Cordoba
-4:16:48 - 1894 10 31
-4:16:48 - 1920 5
-4 - 1930 12
-4 A 1969 10 5
-3 A 1991 3 3
-4 - 1991 10 20
-3 A 1999 10 3
-4 A 2000 3 3
-3 A
Z America/Argentina/Jujuy
-4:21:12 - 1894 10 31
-4:16:48 - 1920 5
-4 - 1930 12
-4 A 1969 10 5
-3 A 1990 3 4
-4 - 1990 10 28
-4 1 1991 3 17
-4 - 1991 10 6
-3 1 1992
-3 A 1999 10 3
-4 A 2000 3 3
-3 A 2008 10 18
-3 -
Z America/Argentina/La_Rioja
-4:27:24 - 1894 10 31
-4:16:48 - 1920 5
-4 - 1930 12
-4 A 1969 10 5
-3 A 1991 3
-4 - 1991 5 7
-3 A 1999 10 3
-4 A 2000 3 3
-3 - 2004 6
-4 - 2004 6 20
-3 A 2008 10 18
-3 -
Z America/Argentina/Mendoza
-4:35:16 - 1894 10 31
-4:16:48 - 1920 5
-4 - 1930 12
-4 A 1969 10 5
-3 A 1990 3 4
-4 - 1990 10 15
-4 1 1991 3
-4 - 1991 10 15
-4 1 1992 3
-4 - 1992 10 18
-3 A 1999 10 3
-4 A 2000 3 3
-3 - 2004 5 23
-4 - 2004 9 26
-3 A 2008 10 18
-3 -
Z America/Argentina/Rio_Gallegos
-4:36:52 - 1894 10 31
-4:16:48 - 1920 5
-4 - 1930 12
-4 A 1969 10 5
-3 A 1999 10 3
-4 A 2000 3 3
-3 - 2004 6
-4 - 2004 6 20
-3 A 2008 10 18
-3 -
Z America/Argentina/Salta
-4:21:40 - 1894 10 31
-4:16:48 - 1920 5
-4 - 1930 12
-4 A 1969 10 5
-3 A 1991 3 3
-4 - 1991 10 20
-3 A 1999 10 3
-4 A 2000 3 3
-3 A 2008 10 18
-3 -
Z America/Argentina/San_Juan
-4:34:4 - 1894 10 31
-4:16:48 - 1920 5
-4 - 1930 12
-4 A 1969 10 5
-3 A 1991 3
-4 - 1991 5 7
-3 A 1999 10 3
-4 A 2000 3 3
-3 - 2004 5 31
-4 - 2004 7 25
-3 A 2008 10 18
-3 -
Z America/Argentina/San_Luis
-4:25:24 - 1894 10 31
-4:16:48 - 1920 5
-4 - 1930 12
-4 A 1969 10 5
-3 A 1990
-3 1 1990 3 14
-4 - 1990 10 15
-4 1 1991 3
-4 - 1991 6
-3 - 1999 10 3
-4 1 2000 3 3
-3 - 2004 5 31
-4 - 2004 7 25
-3 A 2008 1 21
-4 Sa 2009 10 11
-3 -
Z America/Argentina/Tucuman
-4:20:52 - 1894 10 31
-4:16:48 - 1920 5
-4 - 1930 12
-4 A 1969 10 5
-3 A 1991 3 3
-4 - 1991 10 20
-3 A 1999 10 3
-4 A 2000 3 3
-3 - 2004 6
-4 - 2004 6 13
-3 A
Z America/Argentina/Ushuaia
-4:33:12 - 1894 10 31
-4:16:48 - 1920 5
-4 - 1930 12
-4 A 1969 10 5
-3 A 1999 10 3
-4 A 2000 3 3
-3 - 2004 5 30
-4 - 2004 6 20
-3 A 2008 10 18
-3 -
Z America/Asuncion
-3:50:40 - 1890
-3:50:40 - 1931 10 10
-4 - 1972 10
-3 - 1974 4
-4 y 2024 10 15
-3 -
Z America/Bahia
-2:34:4 - 1914
-3 B 2003 9 24
-3 - 2011 10 16
-3 B 2012 10 21
-3 -
Z America/Bahia_Banderas
-7:1 - 1922 1 1 7u
-7 - 1927 6 10
-6 - 1930 11 15
-7 m 1932 4
-6 - 1942 4 24
-7 - 1970
-7 m 2010 4 4 2
-6 m
Z America/Barbados
-3:58:29 - 1911 8 28
-4 BB 1944
-4 BB 1945
-4 BB
Z America/Belem
-3:13:56 - 1914
-3 B 1988 9 12
-3 -
Z America/Belize
-5:52:48 - 1912 4
-6 BZ
Z America/Boa_Vista
-4:2:40 - 1914
-4 B 1988 9 12
-4 - 1999 9 30
-4 B 2000 10 15
-4 -
Z America/Bogota
-4:56:16 - 1884 3 13
-4:56:16 - 1914 11 23
-5 CO
Z America/Boise
-7:44:49 - 1883 11 18 20u
-8 u 1923 5 13 2
-7 u 1974
-7 - 1974 2 3 2
-7 u
Z America/Cambridge_Bay
0 - 1920
-7 Y 1999 10 31 2
-6 C 2000 10 29 2
-5 - 2000 11 5
-6 - 2001 4 1 3
-7 C
Z America/Campo_Grande
-3:38:28 - 1914
-4 B
Z America/Cancun
-5:47:4 - 1922 1 1 6u
-6 - 1981 12 26 2
-5 - 1983 1 4
-6 m 1997 10 26 2
-5 m 1998 8 2 2
-6 m 2015 2 1 2
-5 -
Z America/Caracas
-4:27:44 - 1890
-4:27:40 - 1912 2 12
-4:30 - 1965
-4 - 2007 12 9 3
-4:30 - 2016 5 1 2:30
-4 -
Z America/Cayenne
-3:29:20 - 1911 7
-4 - 1967 10
-3 -
Z America/Chicago
-5:50:36 - 1883 11 18 18u
-6 u 1920
-6 Ch 1936 3 1 2
-5 - 1936 11 15 2
-6 Ch 1942
-6 u 1946
-6 Ch 1967
-6 u
Z America/Chihuahua
-7:4:20 - 1922 1 1 7u
-7 - 1927 6 10
-6 - 1930 11 15
-7 m 1932 4
-6 - 1996
-6 m 1998
-6 - 1998 4 0>1 3
-7 m 2022 10 30 2
-6 -
Z America/Ciudad_Juarez
-7:5:56 - 1922 1 1 7u
-7 - 1927 6 10
-6 - 1930 11 15
-7 m 1932 4
-6 - 1996
-6 m 1998
-6 - 1998 4 0>1 3
-7 m 2010
-7 u 2022 10 30 2
-6 - 2022 11 30
-7 u
Z America/Costa_Rica
-5:36:13 - 1890
-5:36:13 - 1921 1 15
-6 CR
Z America/Coyhaique
-4:48:16 - 1890
-4:42:45 - 1910 1 10
-5 - 1916 7
-4:42:45 - 1918 9 10
-4 - 1919 7
-4:42:45 - 1927 9
-5 x 1932 9
-4 - 1942 6
-5 - 1942 8
-4 - 1946 8 28 24
-5 1 1947 3 31 24
-5 - 1947 5 21 23
-4 x 2025 3 20
-3 -
Z America/Cuiaba
-3:44:20 - 1914
-4 B 2003 9 24
-4 - 2004 10
-4 B
Z America/Danmarkshavn
-1:14:40 - 1916 7 28
-3 - 1980 4 6 2
-3 E 1996
0 -
Z America/Dawson
-9:17:40 - 1900 8 20
-9 Y 1965
-9 Yu 1973 10 28
-8 - 1980
-8 C 2020 11
-7 -
Z America/Dawson_Creek
-8:0:56 - 1884
-8 C 1947
-8 Va 1972 8 30 2
-7 -
Z America/Denver
-6:59:56 - 1883 11 18 19u
-7 u 1920
-7 De 1942
-7 u 1946
-7 De 1967
-7 u
Z America/Detroit
-5:32:11 - 1905
-6 - 1915 5 15 2
-5 - 1942
-5 u 1946
-5 Dt 1967 6 14 0:1
-5 u 1969
-5 - 1973
-5 u 1975
-5 - 1975 4 27 2
-5 u
Z America/Edmonton
-7:33:52 - 1906 9
-7 Ed 1987
-7 C
Z America/Eirunepe
-4:39:28 - 1914
-5 B 1988 9 12
-5 - 1993 9 28
-5 B 1994 9 22
-5 - 2008 6 24
-4 - 2013 11 10
-5 -
Z America/El_Salvador
-5:56:48 - 1921
-6 SV
Z America/Fort_Nelson
-8:10:47 - 1884
-8 Va 1946
-8 - 1947
-8 Va 1987
-8 C 2015 3 8 2
-7 -
Z America/Fortaleza
-2:34 - 1914
-3 B 1990 9 17
-3 - 1999 9 30
-3 B 2000 10 22
-3 - 2001 9 13
-3 B 2002 10
-3 -
Z America/Glace_Bay
-3:59:48 - 1902 6 15
-4 C 1953
-4 H 1954
-4 - 1972
-4 H 1974
-4 C
Z America/Goose_Bay
-4:1:40 - 1884
-3:30:52 - 1918
-3:30:52 C 1919
-3:30:52 - 1935 3 30
-3:30 - 1936
-3:30 j 1942 5 11
-3:30 C 1946
-3:30 j 1966 3 15 2
-4 j 2011 11
-4 C
Z America/Grand_Turk
-4:44:32 - 1890
-5:7:10 - 1912 2
-5 - 1979
-5 u 2015 3 8 2
-4 - 2018 3 11 3
-5 u
Z America/Guatemala
-6:2:4 - 1918 10 5
-6 GT
Z America/Guayaquil
-5:19:20 - 1890
-5:14 - 1931
-5 EC
Z America/Guyana
-3:52:39 - 1911 8
-4 - 1915 3
-3:45 - 1975 8
-3 - 1992 3 29 1
-4 -
Z America/Halifax
-4:14:24 - 1902 6 15
-4 H 1918
-4 C 1919
-4 H 1942 2 9 2s
-4 C 1946
-4 H 1974
-4 C
Z America/Havana
-5:29:28 - 1890
-5:29:36 - 1925 7 19 12
-5 Q
Z America/Hermosillo
-7:23:52 - 1922 1 1 7u
-7 - 1927 6 10
-6 - 1930 11 15
-7 m 1932 4
-6 - 1942 4 24
-7 - 1996
-7 m 1999
-7 -
Z America/Indiana/Indianapolis
-5:44:38 - 1883 11 18 18u
-6 u 1920
-6 In 1942
-6 u 1946
-6 In 1955 4 24 2
-5 - 1957 9 29 2
-6 - 1958 4 27 2
-5 - 1969
-5 u 1971
-5 - 2006
-5 u
Z America/Indiana/Knox
-5:46:30 - 1883 11 18 18u
-6 u 1947
-6 St 1962 4 29 2
-5 - 1963 10 27 2
-6 u 1991 10 27 2
-5 - 2006 4 2 2
-6 u
Z America/Indiana/Marengo
-5:45:23 - 1883 11 18 18u
-6 u 1951
-6 Ma 1961 4 30 2
-5 - 1969
-5 u 1974 1 6 2
-6 1 1974 10 27 2
-5 u 1976
-5 - 2006
-5 u
Z America/Indiana/Petersburg
-5:49:7 - 1883 11 18 18u
-6 u 1955
-6 Pi 1965 4 25 2
-5 - 1966 10 30 2
-6 u 1977 10 30 2
-5 - 2006 4 2 2
-6 u 2007 11 4 2
-5 u
Z America/Indiana/Tell_City
-5:47:3 - 1883 11 18 18u
-6 u 1946
-6 Pe 1964 4 26 2
-5 - 1967 10 29 2
-6 u 1969 4 27 2
-5 u 1971
-5 - 2006 4 2 2
-6 u
Z America/Indiana/Vevay
-5:40:16 - 1883 11 18 18u
-6 u 1954 4 25 2
-5 - 1969
-5 u 1973
-5 - 2006
-5 u
Z America/Indiana/Vincennes
-5:50:7 - 1883 11 18 18u
-6 u 1946
-6 V 1964 4 26 2
-5 - 1969
-5 u 1971
-5 - 2006 4 2 2
-6 u 2007 11 4 2
-5 u
Z America/Indiana/Winamac
-5:46:25 - 1883 11 18 18u
-6 u 1946
-6 Pu 1961 4 30 2
-5 - 1969
-5 u 1971
-5 - 2006 4 2 2
-6 u 2007 3 11 2
-5 u
Z America/Inuvik
0 - 1953
-8 Y 1979 4 0$ 2
-7 Y 1980
-7 C
Z America/Iqaluit
0 - 1942 8
-5 Y 1999 10 31 2
-6 C 2000 10 29 2
-5 C
Z America/Jamaica
-5:7:10 - 1890
-5:7:10 - 1912 2
-5 - 1974
-5 u 1984
-5 -
Z America/Juneau
15:2:19 - 1867 10 19 15:33:32
-8:57:41 - 1900 8 20 12
-8 - 1942
-8 u 1946
-8 - 1969
-8 u 1980 4 27 2
-9 u 1980 10 26 2
-8 u 1983 10 30 2
-9 u 1983 11 30
-9 u
Z America/Kentucky/Louisville
-5:43:2 - 1883 11 18 18u
-6 u 1921
-6 v 1942
-6 u 1946
-6 v 1961 7 23 2
-5 - 1968
-5 u 1974 1 6 2
-6 1 1974 10 27 2
-5 u
Z America/Kentucky/Monticello
-5:39:24 - 1883 11 18 18u
-6 u 1946
-6 - 1968
-6 u 2000 10 29 2
-5 u
Z America/La_Paz
-4:32:36 - 1890
-4:32:36 - 1931 10 15
-4:32:36 1 1932 3 21
-4 -
Z America/Lima
-5:8:12 - 1890
-5:8:36 - 1908 7 28
-5 PE
Z America/Los_Angeles
-7:52:58 - 1883 11 18 20u
-8 u 1946
-8 CA 1967
-8 u
Z America/Maceio
-2:22:52 - 1914
-3 B 1990 9 17
-3 - 1995 10 13
-3 B 1996 9 4
-3 - 1999 9 30
-3 B 2000 10 22
-3 - 2001 9 13
-3 B 2002 10
-3 -
Z America/Managua
-5:45:8 - 1890
-5:45:12 - 1934 6 23
-6 - 1973 5
-5 - 1975 2 16
-6 NI 1992 1 1 4
-5 - 1992 9 24
-6 - 1993
-5 - 1997
-6 NI
Z America/Manaus
-4:0:4 - 1914
-4 B 1988 9 12
-4 - 1993 9 28
-4 B 1994 9 22
-4 -
Z America/Martinique
-4:4:20 - 1890
-4:4:20 - 1911 5
-4 - 1980 4 6
-4 1 1980 9 28
-4 -
Z America/Matamoros
-6:30 - 1922 1 1 6u
-6 - 1988
-6 u 1989
-6 m 2010
-6 u
Z America/Mazatlan
-7:5:40 - 1922 1 1 7u
-7 - 1927 6 10
-6 - 1930 11 15
-7 m 1932 4
-6 - 1942 4 24
-7 - 1970
-7 m
Z America/Menominee
-5:50:27 - 1885 9 18 12
-6 u 1946
-6 Me 1969 4 27 2
-5 - 1973 4 29 2
-6 u
Z America/Merida
-5:58:28 - 1922 1 1 6u
-6 - 1981 12 26 2
-5 - 1982 11 2 2
-6 m
Z America/Metlakatla
15:13:42 - 1867 10 19 15:44:55
-8:46:18 - 1900 8 20 12
-8 - 1942
-8 u 1946
-8 - 1969
-8 u 1983 10 30 2
-8 - 2015 11 1 2
-9 u 2018 11 4 2
-8 - 2019 1 20 2
-9 u
Z America/Mexico_City
-6:36:36 - 1922 1 1 7u
-7 - 1927 6 10
-6 - 1930 11 15
-7 m 1932 4
-6 m 2001 9 30 2
-6 - 2002 2 20
-6 m
Z America/Miquelon
-3:44:40 - 1911 6 15
-4 - 1980 5
-3 - 1987
-3 C
Z America/Moncton
-4:19:8 - 1883 12 9
-5 - 1902 6 15
-4 C 1933
-4 o 1942
-4 C 1946
-4 o 1973
-4 C 1993
-4 o 2007
-4 C
Z America/Monterrey
-6:41:16 - 1922 1 1 6u
-7 - 1927 6 10
-6 - 1930 11 15
-7 m 1932 4
-6 - 1988
-6 u 1989
-6 m
Z America/Montevideo
-3:44:51 - 1908 6 10
-3:44:51 - 1920 5
-4 - 1923 10
-3:30 U 1942 12 14
-3 U 1960
-3 U 1968
-3 U 1970
-3 U 1974
-3 U 1974 3 10
-3 U 1974 12 22
-3 U
Z America/New_York
-4:56:2 - 1883 11 18 17u
-5 u 1920
-5 NY 1942
-5 u 1946
-5 NY 1967
-5 u
Z America/Nome
12:58:22 - 1867 10 19 13:29:35
-11:1:38 - 1900 8 20 12
-11 - 1942
-11 u 1946
-11 - 1967 4
-11 - 1969
-11 u 1983 10 30 2
-9 u 1983 11 30
-9 u
Z America/Noronha
-2:9:40 - 1914
-2 B 1990 9 17
-2 - 1999 9 30
-2 B 2000 10 15
-2 - 2001 9 13
-2 B 2002 10
-2 -
Z America/North_Dakota/Beulah
-6:47:7 - 1883 11 18 19u
-7 u 2010 11 7 2
-6 u
Z America/North_Dakota/Center
-6:45:12 - 1883 11 18 19u
-7 u 1992 10 25 2
-6 u
Z America/North_Dakota/New_Salem
-6:45:39 - 1883 11 18 19u
-7 u 2003 10 26 2
-6 u
Z America/Nuuk
-3:26:56 - 1916 7 28
-3 - 1980 4 6 2
-3 E 2023 3 26 1u
-2 - 2023 10 29 1u
-2 E
Z America/Ojinaga
-6:57:40 - 1922 1 1 7u
-7 - 1927 6 10
-6 - 1930 11 15
-7 m 1932 4
-6 - 1996
-6 m 1998
-6 - 1998 4 0>1 3
-7 m 2010
-7 u 2022 10 30 2
-6 - 2022 11 30
-6 u
Z America/Panama
-5:18:8 - 1890
-5:19:36 - 1908 4 22
-5 -
Z America/Paramaribo
-3:40:40 - 1911
-3:40:52 - 1935
-3:40:36 - 1945 10
-3:30 - 1984 10
-3 -
Z America/Phoenix
-7:28:18 - 1883 11 18 19u
-7 u 1944 1 1 0:1
-7 - 1944 4 1 0:1
-7 u 1944 10 1 0:1
-7 - 1967
-7 u 1968 3 21
-7 -
Z America/Port-au-Prince
-4:49:20 - 1890
-4:49 - 1917 1 24 12
-5 HT
Z America/Porto_Velho
-4:15:36 - 1914
-4 B 1988 9 12
-4 -
Z America/Puerto_Rico
-4:24:25 - 1899 3 28 12
-4 - 1942 5 3
-4 u 1946
-4 -
Z America/Punta_Arenas
-4:43:40 - 1890
-4:42:45 - 1910 1 10
-5 - 1916 7
-4:42:45 - 1918 9 10
-4 - 1919 7
-4:42:45 - 1927 9
-5 x 1932 9
-4 - 1942 6
-5 - 1942 8
-4 - 1946 8 28 24
-5 1 1947 3 31 24
-5 - 1947 5 21 23
-4 x 2016 12 4
-3 -
Z America/Rankin_Inlet
0 - 1957
-6 Y 2000 10 29 2
-5 - 2001 4 1 3
-6 C
Z America/Recife
-2:19:36 - 1914
-3 B 1990 9 17
-3 - 1999 9 30
-3 B 2000 10 15
-3 - 2001 9 13
-3 B 2002 10
-3 -
Z America/Regina
-6:58:36 - 1905 9
-7 r 1960 4 0$ 2
-6 -
Z America/Resolute
0 - 1947 8 31
-6 Y 2000 10 29 2
-5 - 2001 4 1 3
-6 C 2006 10 29 2
-5 - 2007 3 11 3
-6 C
Z America/Rio_Branco
-4:31:12 - 1914
-5 B 1988 9 12
-5 - 2008 6 24
-4 - 2013 11 10
-5 -
Z America/Santarem
-3:38:48 - 1914
-4 B 1988 9 12
-4 - 2008 6 24
-3 -
Z America/Santiago
-4:42:45 - 1890
-4:42:45 - 1910 1 10
-5 - 1916 7
-4:42:45 - 1918 9 10
-4 - 1919 7
-4:42:45 - 1927 9
-5 x 1932 9
-4 - 1942 6
-5 - 1942 8
-4 - 1946 7 14 24
-4 1 1946 8 28 24
-5 1 1947 3 31 24
-5 - 1947 5 21 23
-4 x
Z America/Santo_Domingo
-4:39:36 - 1890
-4:40 - 1933 4 1 12
-5 DO 1974 10 27
-4 - 2000 10 29 2
-5 u 2000 12 3 1
-4 -
Z America/Sao_Paulo
-3:6:28 - 1914
-3 B 1963 10 23
-3 1 1964
-3 B
Z America/Scoresbysund
-1:27:52 - 1916 7 28
-2 - 1980 4 6 2
-2 c 1981 3 29
-1 E 2024 3 31
-2 E
Z America/Sitka
14:58:47 - 1867 10 19 15:30
-9:1:13 - 1900 8 20 12
-8 - 1942
-8 u 1946
-8 - 1969
-8 u 1983 10 30 2
-9 u 1983 11 30
-9 u
Z America/St_Johns
-3:30:52 - 1884
-3:30:52 j 1918
-3:30:52 C 1919
-3:30:52 j 1935 3 30
-3:30 j 1942 5 11
-3:30 C 1946
-3:30 j 2011 11
-3:30 C
Z America/Swift_Current
-7:11:20 - 1905 9
-7 C 1946 4 0$ 2
-7 r 1950
-7 Sw 1972 4 0$ 2
-6 -
Z America/Tegucigalpa
-5:48:52 - 1921 4
-6 HN
Z America/Thule
-4:35:8 - 1916 7 28
-4 Th
Z America/Tijuana
-7:48:4 - 1922 1 1 7u
-7 - 1924
-8 - 1927 6 10
-7 - 1930 11 15
-8 - 1931 4
-8 1 1931 9 30
-8 - 1942 4 24
-8 1 1945 8 14 23u
-8 1 1945 11 15
-8 - 1948 4 5
-8 1 1949 1 14
-8 - 1954
-8 CA 1961
-8 - 1976
-8 u 1996
-8 m 2001
-8 u 2002 2 20
-8 m 2010
-8 u
Z America/Toronto
-5:17:32 - 1895
-5 C 1919
-5 t 1942 2 9 2s
-5 C 1946
-5 t 1974
-5 C
Z America/Vancouver
-8:12:28 - 1884
-8 Va 1987
-8 C
Z America/Whitehorse
-9:0:12 - 1900 8 20
-9 Y 1965
-9 Yu 1966 2 27
-8 - 1980
-8 C 2020 11
-7 -
Z America/Winnipeg
-6:28:36 - 1887 7 16
-6 W 2006
-6 C
Z America/Yakutat
14:41:5 - 1867 10 19 15:12:18
-9:18:55 - 1900 8 20 12
-9 - 1942
-9 u 1946
-9 - 1969
-9 u 1983 11 30
-9 u
Z Antarctica/Casey
0 - 1969
8 - 2009 10 18 2
11 - 2010 3 5 2
8 - 2011 10 28 2
11 - 2012 2 21 17u
8 - 2016 10 22
11 - 2018 3 11 4
8 - 2018 10 7 4
11 - 2019 3 17 3
8 - 2019 10 4 3
11 - 2020 3 8 3
8 - 2020 10 4 0:1
11 - 2021 3 14
8 - 2021 10 3 0:1
11 - 2022 3 13
8 - 2022 10 2 0:1
11 - 2023 3 9 3
8 -
Z Antarctica/Davis
0 - 1957 1 13
7 - 1964 11
0 - 1969 2
7 - 2009 10 18 2
5 - 2010 3 10 20u
7 - 2011 10 28 2
5 - 2012 2 21 20u
7 -
Z Antarctica/Macquarie
0 - 1899 11
10 - 1916 10 1 2
10 1 1917 2
10 AU 1919 4 1 0s
0 - 1948 3 25
10 AU 1967
10 AT 2010
10 1 2011
10 AT
Z Antarctica/Mawson
0 - 1954 2 13
6 - 2009 10 18 2
5 -
Z Antarctica/Palmer
0 - 1965
-4 A 1969 10 5
-3 A 1982 5
-4 x 2016 12 4
-3 -
Z Antarctica/Rothera
0 - 1976 12
-3 -
Z Antarctica/Troll
0 - 2005 2 12
0 Tr
Z Antarctica/Vostok
0 - 1957 12 16
7 - 1994 2
0 - 1994 11
7 - 2023 12 18 2
5 -
Z Asia/Almaty
5:7:48 - 1924 5 2
5 - 1930 6 21
6 R 1991 3 31 2s
5 R 1992 1 19 2s
6 R 2004 10 31 2s
6 - 2024 3
5 -
Z Asia/Amman
2:23:44 - 1931
2 J 2022 10 28 0s
3 -
Z Asia/Anadyr
11:49:56 - 1924 5 2
12 - 1930 6 21
13 R 1982 4 1 0s
12 R 1991 3 31 2s
11 R 1992 1 19 2s
12 R 2010 3 28 2s
11 R 2011 3 27 2s
12 -
Z Asia/Aqtau
3:21:4 - 1924 5 2
4 - 1930 6 21
5 - 1981 10
6 - 1982 4
5 R 1991 3 31 2s
4 R 1992 1 19 2s
5 R 1994 9 25 2s
4 R 2004 10 31 2s
5 -
Z Asia/Aqtobe
3:48:40 - 1924 5 2
4 - 1930 6 21
5 - 1981 4
5 1 1981 10
6 - 1982 4
5 R 1991 3 31 2s
4 R 1992 1 19 2s
5 R 2004 10 31 2s
5 -
Z Asia/Ashgabat
3:53:32 - 1924 5 2
4 - 1930 6 21
5 R 1991 3 31 2
4 R 1992 1 19 2
5 -
Z Asia/Atyrau
3:27:44 - 1924 5 2
3 - 1930 6 21
5 - 1981 10
6 - 1982 4
5 R 1991 3 31 2s
4 R 1992 1 19 2s
5 R 1999 3 28 2s
4 R 2004 10 31 2s
5 -
Z Asia/Baghdad
2:57:40 - 1890
2:57:36 - 1918
3 - 1982 5
3 IQ
Z Asia/Baku
3:19:24 - 1924 5 2
3 - 1957 3
4 R 1991 3 31 2s
3 R 1992 9 0$ 2s
4 - 1996
4 E 1997
4 AZ
Z Asia/Bangkok
6:42:4 - 1880
6:42:4 - 1920 4
7 -
Z Asia/Barnaul
5:35 - 1919 12 10
6 - 1930 6 21
7 R 1991 3 31 2s
6 R 1992 1 19 2s
7 R 1995 5 28
6 R 2011 3 27 2s
7 - 2014 10 26 2s
6 - 2016 3 27 2s
7 -
Z Asia/Beirut
2:22 - 1880
2 l
Z Asia/Bishkek
4:58:24 - 1924 5 2
5 - 1930 6 21
6 R 1991 3 31 2s
5 R 1991 8 31 2
5 KG 2005 8 12
6 -
Z Asia/Chita
7:33:52 - 1919 12 15
8 - 1930 6 21
9 R 1991 3 31 2s
8 R 1992 1 19 2s
9 R 2011 3 27 2s
10 - 2014 10 26 2s
8 - 2016 3 27 2
9 -
Z Asia/Colombo
5:19:24 - 1880
5:19:32 - 1906
5:30 - 1942 1 5
5:30 0:30 1942 9
5:30 1 1945 10 16 2
5:30 - 1996 5 25
6:30 - 1996 10 26 0:30
6 - 2006 4 15 0:30
5:30 -
Z Asia/Damascus
2:25:12 - 1920
2 S 2022 10 28
3 -
Z Asia/Dhaka
6:1:40 - 1890
5:53:20 - 1941 10
6:30 - 1942 5 15
5:30 - 1942 9
6:30 - 1951 9 30
6 - 2009
6 BD
Z Asia/Dili
8:22:20 - 1911 12 31 16u
8 - 1942 2 21 23
9 - 1976 5 3
8 - 2000 9 17
9 -
Z Asia/Dubai
3:41:12 - 1920
4 -
Z Asia/Dushanbe
4:35:12 - 1924 5 2
5 - 1930 6 21
6 R 1991 3 31 2s
5 1 1991 9 9 2s
5 -
Z Asia/Famagusta
2:15:48 - 1921 11 14
2 CY 1998 9
2 E 2016 9 8
3 - 2017 10 29 1u
2 E
Z Asia/Gaza
2:17:52 - 1900 10
2 Z 1948 5 15
2 K 1967 6 5
2 Z 1996
2 J 1999
2 P 2008 8 29
2 - 2008 9
2 P 2010
2 - 2010 3 27 0:1
2 P 2011 8
2 - 2012
2 P
Z Asia/Hebron
2:20:23 - 1900 10
2 Z 1948 5 15
2 K 1967 6 5
2 Z 1996
2 J 1999
2 P
Z Asia/Ho_Chi_Minh
7:6:30 - 1906 7
7:6:30 - 1911 5
7 - 1942 12 31 23
8 - 1945 3 14 23
9 - 1945 9 1 24
7 - 1947 4
8 - 1955 7 1 1
7 - 1959 12 31 23
8 - 1975 6 13
7 -
Z Asia/Hong_Kong
7:36:42 - 1904 10 29 17u
8 - 1941 6 15 3
8 1 1941 10 1 4
8 0:30 1941 12 25
9 - 1945 11 18 2
8 HK
Z Asia/Hovd
6:6:36 - 1905 8
6 - 1978
7 X
Z Asia/Irkutsk
6:57:5 - 1880
6:57:5 - 1920 1 25
7 - 1930 6 21
8 R 1991 3 31 2s
7 R 1992 1 19 2s
8 R 2011 3 27 2s
9 - 2014 10 26 2s
8 -
Z Asia/Jakarta
7:7:12 - 1867 8 10
7:7:12 - 1923 12 31 16:40u
7:20 - 1932 11
7:30 - 1942 3 23
9 - 1945 9 23
7:30 - 1948 5
8 - 1950 5
7:30 - 1964
7 -
Z Asia/Jayapura
9:22:48 - 1932 11
9 - 1944 9
9:30 - 1964
9 -
Z Asia/Jerusalem
2:20:54 - 1880
2:20:40 - 1918
2 Z
Z Asia/Kabul
4:36:48 - 1890
4 - 1945
4:30 -
Z Asia/Kamchatka
10:34:36 - 1922 11 10
11 - 1930 6 21
12 R 1991 3 31 2s
11 R 1992 1 19 2s
12 R 2010 3 28 2s
11 R 2011 3 27 2s
12 -
Z Asia/Karachi
4:28:12 - 1907
5:30 - 1942 9
5:30 1 1945 10 15
5:30 - 1951 9 30
5 - 1971 3 26
5 PK
Z Asia/Kathmandu
5:41:16 - 1920
5:30 - 1986
5:45 -
Z Asia/Khandyga
9:2:13 - 1919 12 15
8 - 1930 6 21
9 R 1991 3 31 2s
8 R 1992 1 19 2s
9 R 2004
10 R 2011 3 27 2s
11 - 2011 9 13 0s
10 - 2014 10 26 2s
9 -
Z Asia/Kolkata
5:53:28 - 1854 6 28
5:53:20 - 1870
5:21:10 - 1906
5:30 - 1941 10
5:30 1 1942 5 15
5:30 - 1942 9
5:30 1 1945 10 15
5:30 -
Z Asia/Krasnoyarsk
6:11:26 - 1920 1 6
6 - 1930 6 21
7 R 1991 3 31 2s
6 R 1992 1 19 2s
7 R 2011 3 27 2s
8 - 2014 10 26 2s
7 -
Z Asia/Kuching
7:21:20 - 1926 3
7:30 - 1933
8 NB 1942 2 16
9 - 1945 9 12
8 -
Z Asia/Macau
7:34:10 - 1904 10 30
8 - 1941 12 21 23
9 _ 1945 9 30 24
8 _
Z Asia/Magadan
10:3:12 - 1924 5 2
10 - 1930 6 21
11 R 1991 3 31 2s
10 R 1992 1 19 2s
11 R 2011 3 27 2s
12 - 2014 10 26 2s
10 - 2016 4 24 2s
11 -
Z Asia/Makassar
7:57:36 - 1920
7:57:36 - 1932 11
8 - 1942 2 9
9 - 1945 9 23
8 -
Z Asia/Manila
-15:56:8 - 1844 12 31
8:3:52 - 1899 9 6 4u
8 PH 1942 2 11 24
9 - 1945 3 4
8 PH
Z Asia/Nicosia
2:13:28 - 1921 11 14
2 CY 1998 9
2 E
Z Asia/Novokuznetsk
5:48:48 - 1924 5
6 - 1930 6 21
7 R 1991 3 31 2s
6 R 1992 1 19 2s
7 R 2010 3 28 2s
6 R 2011 3 27 2s
7 -
Z Asia/Novosibirsk
5:31:40 - 1919 12 14 6
6 - 1930 6 21
7 R 1991 3 31 2s
6 R 1992 1 19 2s
7 R 1993 5 23
6 R 2011 3 27 2s
7 - 2014 10 26 2s
6 - 2016 7 24 2s
7 -
Z Asia/Omsk
4:53:30 - 1919 11 14
5 - 1930 6 21
6 R 1991 3 31 2s
5 R 1992 1 19 2s
6 R 2011 3 27 2s
7 - 2014 10 26 2s
6 -
Z Asia/Oral
3:25:24 - 1924 5 2
3 - 1930 6 21
5 - 1981 4
5 1 1981 10
6 - 1982 4
5 R 1989 3 26 2s
4 R 1992 1 19 2s
5 R 1992 3 29 2s
4 R 2004 10 31 2s
5 -
Z Asia/Pontianak
7:17:20 - 1908 5
7:17:20 - 1932 11
7:30 - 1942 1 29
9 - 1945 9 23
7:30 - 1948 5
8 - 1950 5
7:30 - 1964
8 - 1988
7 -
Z Asia/Pyongyang
8:23 - 1908 4
8:30 - 1912
9 - 1945 8 24
9 - 2015 8 15
8:30 - 2018 5 4 23:30
9 -
Z Asia/Qatar
3:26:8 - 1920
4 - 1972 6
3 -
Z Asia/Qostanay
4:14:28 - 1924 5 2
4 - 1930 6 21
5 - 1981 4
5 1 1981 10
6 - 1982 4
5 R 1991 3 31 2s
4 R 1992 1 19 2s
5 R 2004 10 31 2s
6 - 2024 3
5 -
Z Asia/Qyzylorda
4:21:52 - 1924 5 2
4 - 1930 6 21
5 - 1981 4
5 1 1981 10
6 - 1982 4
5 R 1991 3 31 2s
4 R 1991 9 29 2s
5 R 1992 1 19 2s
6 R 1992 3 29 2s
5 R 2004 10 31 2s
6 - 2018 12 21
5 -
Z Asia/Riyadh
3:6:52 - 1947 3 14
3 -
Z Asia/Sakhalin
9:30:48 - 1905 8 23
9 - 1945 8 25
11 R 1991 3 31 2s
10 R 1992 1 19 2s
11 R 1997 3 0$ 2s
10 R 2011 3 27 2s
11 - 2014 10 26 2s
10 - 2016 3 27 2s
11 -
Z Asia/Samarkand
4:27:53 - 1924 5 2
4 - 1930 6 21
5 - 1981 4
5 1 1981 10
6 - 1982 4
5 R 1992
5 -
Z Asia/Seoul
8:27:52 - 1908 4
8:30 - 1912
9 - 1945 9 8
9 KR 1954 3 21
8:30 KR 1961 8 10
9 KR
Z Asia/Shanghai
8:5:43 - 1901
8 Sh 1949 5 28
8 CN
Z Asia/Singapore
6:55:25 - 1901
6:55:25 - 1905 6
7 - 1933
7 0:20 1936
7:20 - 1941 9
7:30 - 1942 2 16
9 - 1945 9 12
7:30 - 1981 12 31 16u
8 -
Z Asia/Srednekolymsk
10:14:52 - 1924 5 2
10 - 1930 6 21
11 R 1991 3 31 2s
10 R 1992 1 19 2s
11 R 2011 3 27 2s
12 - 2014 10 26 2s
11 -
Z Asia/Taipei
8:6 - 1896
8 - 1937 10
9 - 1945 9 21 1
8 f
Z Asia/Tashkent
4:37:11 - 1924 5 2
5 - 1930 6 21
6 R 1991 3 31 2
5 R 1992
5 -
Z Asia/Tbilisi
2:59:11 - 1880
2:59:11 - 1924 5 2
3 - 1957 3
4 R 1991 3 31 2s
3 R 1992
3 e 1994 9 0$
4 e 1996 10 0$
4 1 1997 3 0$
4 e 2004 6 27
3 R 2005 3 0$ 2
4 -
Z Asia/Tehran
3:25:44 - 1916
3:25:44 - 1935 6 13
3:30 i 1977 10 20 24
4 i 1978 11 10 24
3:30 i
Z Asia/Thimphu
5:58:36 - 1947 8 15
5:30 - 1987 10
6 -
Z Asia/Tokyo
9:18:59 - 1887 12 31 15u
9 JP
Z Asia/Tomsk
5:39:51 - 1919 12 22
6 - 1930 6 21
7 R 1991 3 31 2s
6 R 1992 1 19 2s
7 R 2002 5 1 3
6 R 2011 3 27 2s
7 - 2014 10 26 2s
6 - 2016 5 29 2s
7 -
Z Asia/Ulaanbaatar
7:7:32 - 1905 8
7 - 1978
8 X
Z Asia/Urumqi
5:50:20 - 1928
6 -
Z Asia/Ust-Nera
9:32:54 - 1919 12 15
8 - 1930 6 21
9 R 1981 4
11 R 1991 3 31 2s
10 R 1992 1 19 2s
11 R 2011 3 27 2s
12 - 2011 9 13 0s
11 - 2014 10 26 2s
10 -
Z Asia/Vladivostok
8:47:31 - 1922 11 15
9 - 1930 6 21
10 R 1991 3 31 2s
9 R 1992 1 19 2s
10 R 2011 3 27 2s
11 - 2014 10 26 2s
10 -
Z Asia/Yakutsk
8:38:58 - 1919 12 15
8 - 1930 6 21
9 R 1991 3 31 2s
8 R 1992 1 19 2s
9 R 2011 3 27 2s
10 - 2014 10 26 2s
9 -
Z Asia/Yangon
6:24:47 - 1880
6:24:47 - 1920
6:30 - 1942 5
9 - 1945 5 3
6:30 -
Z Asia/Yekaterinburg
4:2:33 - 1916 7 3
3:45:5 - 1919 7 15 4
4 - 1930 6 21
5 R 1991 3 31 2s
4 R 1992 1 19 2s
5 R 2011 3 27 2s
6 - 2014 10 26 2s
5 -
Z Asia/Yerevan
2:58 - 1924 5 2
3 - 1957 3
4 R 1991 3 31 2s
3 R 1995 9 24 2s
4 - 1997
4 R 2011
4 AM
Z Atlantic/Azores
-1:42:40 - 1884
-1:54:32 - 1912 1 1 2u
-2 p 1942 4 25 22s
-2 p 1942 8 15 22s
-2 p 1943 4 17 22s
-2 p 1943 8 28 22s
-2 p 1944 4 22 22s
-2 p 1944 8 26 22s
-2 p 1945 4 21 22s
-2 p 1945 8 25 22s
-2 p 1966 10 2 2s
-1 - 1982 3 28 0s
-1 p 1986
-1 E 1992 12 27 1s
0 E 1993 6 17 1u
-1 E
Z Atlantic/Bermuda
-4:19:18 - 1890
-4:19:18 Be 1930 1 1 2
-4 Be 1974 4 28 2
-4 C 1976
-4 u
Z Atlantic/Canary
-1:1:36 - 1922 3
-1 - 1946 9 30 1
0 - 1980 4 6 0s
0 1 1980 9 28 1u
0 E
Z Atlantic/Cape_Verde
-1:34:4 - 1912 1 1 2u
-2 - 1942 9
-2 1 1945 10 15
-2 - 1975 11 25 2
-1 -
Z Atlantic/Faroe
-0:27:4 - 1908 1 11
0 - 1981
0 E
Z Atlantic/Madeira
-1:7:36 - 1884
-1:7:36 - 1912 1 1 1u
-1 p 1942 4 25 22s
-1 p 1942 8 15 22s
-1 p 1943 4 17 22s
-1 p 1943 8 28 22s
-1 p 1944 4 22 22s
-1 p 1944 8 26 22s
-1 p 1945 4 21 22s
-1 p 1945 8 25 22s
-1 p 1966 10 2 2s
0 - 1982 4 4
0 p 1986 7 31
0 E
Z Atlantic/South_Georgia
-2:26:8 - 1890
-2 -
Z Atlantic/Stanley
-3:51:24 - 1890
-3:51:24 - 1912 3 12
-4 FK 1983 5
-3 FK 1985 9 15
-4 FK 2010 9 5 2
-3 -
Z Australia/Adelaide
9:14:20 - 1895 2
9 - 1899 5
9:30 AU 1971
9:30 AS
Z Australia/Brisbane
10:12:8 - 1895
10 AU 1971
10 AQ
Z Australia/Broken_Hill
9:25:48 - 1895 2
10 - 1896 8 23
9 - 1899 5
9:30 AU 1971
9:30 AN 2000
9:30 AS
Z Australia/Darwin
8:43:20 - 1895 2
9 - 1899 5
9:30 AU
Z Australia/Eucla
8:35:28 - 1895 12
8:45 AU 1943 7
8:45 AW
Z Australia/Hobart
9:49:16 - 1895 9
10 AT 1919 10 24
10 AU 1967
10 AT
Z Australia/Lindeman
9:55:56 - 1895
10 AU 1971
10 AQ 1992 7
10 Ho
Z Australia/Lord_Howe
10:36:20 - 1895 2
10 - 1981 3
10:30 LH 1985 7
10:30 LH
Z Australia/Melbourne
9:39:52 - 1895 2
10 AU 1971
10 AV
Z Australia/Perth
7:43:24 - 1895 12
8 AU 1943 7
8 AW
Z Australia/Sydney
10:4:52 - 1895 2
10 AU 1971
10 AN
Z Etc/GMT
0 -
Z Etc/GMT+1
-1 -
Z Etc/GMT+10
-10 -
Z Etc/GMT+11
-11 -
Z Etc/GMT+12
-12 -
Z Etc/GMT+2
-2 -
Z Etc/GMT+3
-3 -
Z Etc/GMT+4
-4 -
Z Etc/GMT+5
-5 -
Z Etc/GMT+6
-6 -
Z Etc/GMT+7
-7 -
Z Etc/GMT+8
-8 -
Z Etc/GMT+9
-9 -
Z Etc/GMT-1
1 -
Z Etc/GMT-10
10 -
Z Etc/GMT-11
11 -
Z Etc/GMT-12
12 -
Z Etc/GMT-13
13 -
Z Etc/GMT-14
14 -
Z Etc/GMT-2
2 -
Z Etc/GMT-3
3 -
Z Etc/GMT-4
4 -
Z Etc/GMT-5
5 -
Z Etc/GMT-6
6 -
Z Etc/GMT-7
7 -
Z Etc/GMT-8
8 -
Z Etc/GMT-9
9 -
Z Etc/UTC
0 -
Z Europe/Andorra
0:6:4 - 1901
0 - 1946 9 30
1 - 1985 3 31 2
1 E
Z Europe/Astrakhan
3:12:12 - 1924 5
3 - 1930 6 21
4 R 1989 3 26 2s
3 R 1991 3 31 2s
4 - 1992 3 29 2s
3 R 2011 3 27 2s
4 - 2014 10 26 2s
3 - 2016 3 27 2s
4 -
Z Europe/Athens
1:34:52 - 1895 9 14
1:34:52 - 1916 7 28 0:1
2 g 1941 4 30
1 g 1944 4 4
2 g 1981
2 E
Z Europe/Belgrade
1:22 - 1884
1 - 1941 4 18 23
1 c 1945
1 - 1945 5 8 2s
1 1 1945 9 16 2s
1 - 1982 11 27
1 E
Z Europe/Berlin
0:53:28 - 1893 4
1 c 1945 5 24 2
1 So 1946
1 DE 1980
1 E
Z Europe/Brussels
0:17:30 - 1880
0:17:30 - 1892 5 1 0:17:30
0 - 1914 11 8
1 - 1916 5
1 c 1918 11 11 11u
0 b 1940 5 20 2s
1 c 1944 9 3
1 b 1977
1 E
Z Europe/Bucharest
1:44:24 - 1891 10
1:44:24 - 1931 7 24
2 z 1981 3 29 2s
2 c 1991
2 z 1994
2 e 1997
2 E
Z Europe/Budapest
1:16:20 - 1890 11
1 c 1918
1 h 1941 4 7 23
1 c 1945
1 h 1984
1 E
Z Europe/Chisinau
1:55:20 - 1880
1:55 - 1918 2 15
1:44:24 - 1931 7 24
2 z 1940 8 15
2 1 1941 7 17
1 c 1944 8 24
3 R 1990 5 6 2
2 R 1992
2 e 1997
2 MD
Z Europe/Dublin
-0:25:21 - 1880 8 2
-0:25:21 - 1916 5 21 2s
-0:25:21 1 1916 10 1 2s
0 G 1921 12 6
0 G 1940 2 25 2s
0 1 1946 10 6 2s
0 - 1947 3 16 2s
0 1 1947 11 2 2s
0 - 1948 4 18 2s
0 G 1968 10 27
1 - 1971 10 31 2u
0 G 1996
0 E
Z Europe/Gibraltar
-0:21:24 - 1880 8 2
0 G 1957 4 14 2
1 - 1982
1 E
Z Europe/Helsinki
1:39:49 - 1878 5 31
1:39:49 - 1921 5
2 FI 1983
2 E
Z Europe/Istanbul
1:55:52 - 1880
1:56:56 - 1910 10
2 T 1978 6 29
3 T 1984 11 1 2
2 T 2007
2 E 2011 3 27 1u
2 - 2011 3 28 1u
2 E 2014 3 30 1u
2 - 2014 3 31 1u
2 E 2015 10 25 1u
2 1 2015 11 8 1u
2 E 2016 9 7
3 -
Z Europe/Kaliningrad
1:22 - 1893 4
1 c 1945 4 10
2 O 1946 4 7
3 R 1989 3 26 2s
2 R 2011 3 27 2s
3 - 2014 10 26 2s
2 -
Z Europe/Kirov
3:18:48 - 1919 7 1 0u
3 - 1930 6 21
4 R 1989 3 26 2s
3 R 1991 3 31 2s
4 - 1992 3 29 2s
3 R 2011 3 27 2s
4 - 2014 10 26 2s
3 -
Z Europe/Kyiv
2:2:4 - 1880
2:2:4 - 1924 5 2
2 - 1930 6 21
3 - 1941 9 20
1 c 1943 11 6
3 R 1990 7 1 2
2 1 1991 9 29 3
2 c 1996 5 13
2 E
Z Europe/Lisbon
-0:36:45 - 1884
-0:36:45 - 1912 1 1 0u
0 p 1966 10 2 2s
1 - 1976 9 26 1
0 p 1986
0 E 1992 9 27 1u
1 E 1996 3 31 1u
0 E
Z Europe/London
-0:1:15 - 1847 12
0 G 1968 10 27
1 - 1971 10 31 2u
0 G 1996
0 E
Z Europe/Madrid
-0:14:44 - 1901 1 1 0u
0 s 1940 3 16 23
1 s 1979
1 E
Z Europe/Malta
0:58:4 - 1893 11 2
1 I 1973 3 31
1 MT 1981
1 E
Z Europe/Minsk
1:50:16 - 1880
1:50 - 1924 5 2
2 - 1930 6 21
3 - 1941 6 28
1 c 1944 7 3
3 R 1990
3 - 1991 3 31 2s
2 R 2011 3 27 2s
3 -
Z Europe/Moscow
2:30:17 - 1880
2:30:17 - 1916 7 3
2:31:19 R 1919 7 1 0u
3 R 1921 10
3 R 1922 10
2 - 1930 6 21
3 R 1991 3 31 2s
2 R 1992 1 19 2s
3 R 2011 3 27 2s
4 - 2014 10 26 2s
3 -
Z Europe/Paris
0:9:21 - 1891 3 16
0:9:21 - 1911 3 11
0 F 1940 6 14 23
1 c 1944 8 25
0 F 1945 9 16 3
1 F 1977
1 E
Z Europe/Prague
0:57:44 - 1850
0:57:44 - 1891 10
1 c 1945 5 9
1 CZ 1946 12 1 3
0 - 1947 2 23 2
1 CZ 1979
1 E
Z Europe/Riga
1:36:34 - 1880
1:36:34 - 1918 4 15 2
1:36:34 1 1918 9 16 3
1:36:34 - 1919 4 1 2
1:36:34 1 1919 5 22 3
1:36:34 - 1926 5 11
2 - 1940 8 5
3 - 1941 7
1 c 1944 10 13
3 R 1989 3 0$ 2s
2 1 1989 9 0$ 2s
2 LV 1997 1 21
2 E 2000 2 29
2 - 2001 1 2
2 E
Z Europe/Rome
0:49:56 - 1866 12 12
0:49:56 - 1893 10 31 23u
1 I 1943 9 10
1 c 1944 6 4
1 I 1980
1 E
Z Europe/Samara
3:20:20 - 1919 7 1 0u
3 - 1930 6 21
4 - 1935 1 27
4 R 1989 3 26 2s
3 R 1991 3 31 2s
2 R 1991 9 29 2s
3 - 1991 10 20 3
4 R 2010 3 28 2s
3 R 2011 3 27 2s
4 -
Z Europe/Saratov
3:4:18 - 1919 7 1 0u
3 - 1930 6 21
4 R 1988 3 27 2s
3 R 1991 3 31 2s
4 - 1992 3 29 2s
3 R 2011 3 27 2s
4 - 2014 10 26 2s
3 - 2016 12 4 2s
4 -
Z Europe/Simferopol
2:16:24 - 1880
2:16 - 1924 5 2
2 - 1930 6 21
3 - 1941 11
1 c 1944 4 13
3 R 1990
3 - 1990 7 1 2
2 - 1992 3 20
2 c 1994 5
3 c 1996 3 31 0s
3 1 1996 10 27 3s
3 - 1997 3 0$ 1u
2 E 2014 3 30 2
4 - 2014 10 26 2s
3 -
Z Europe/Sofia
1:33:16 - 1880
1:56:56 - 1894 11 30
2 - 1942 11 2 3
1 c 1945
1 - 1945 4 2 3
2 - 1979 3 31 23
2 BG 1982 9 26 3
2 c 1991
2 e 1997
2 E
Z Europe/Tallinn
1:39 - 1880
1:39 - 1918 2
1 c 1919 7
1:39 - 1921 5
2 - 1940 8 6
3 - 1941 9 15
1 c 1944 9 22
3 R 1989 3 26 2s
2 1 1989 9 24 2s
2 c 1998 9 22
2 E 1999 10 31 4
2 - 2002 2 21
2 E
Z Europe/Tirane
1:19:20 - 1914
1 - 1940 6 16
1 q 1984 7
1 E
Z Europe/Ulyanovsk
3:13:36 - 1919 7 1 0u
3 - 1930 6 21
4 R 1989 3 26 2s
3 R 1991 3 31 2s
2 R 1992 1 19 2s
3 R 2011 3 27 2s
4 - 2014 10 26 2s
3 - 2016 3 27 2s
4 -
Z Europe/Vienna
1:5:21 - 1893 4
1 c 1920
1 a 1940 4 1 2s
1 c 1945 4 2 2s
1 1 1945 4 12 2s
1 - 1946
1 a 1981
1 E
Z Europe/Vilnius
1:41:16 - 1880
1:24 - 1917
1:35:36 - 1919 10 10
1 - 1920 7 12
2 - 1920 10 9
1 - 1940 8 3
3 - 1941 6 24
1 c 1944 8
3 R 1989 3 26 2s
2 R 1991 9 29 2s
2 c 1998
2 - 1998 3 29 1u
1 E 1999 10 31 1u
2 - 2003
2 E
Z Europe/Volgograd
2:57:40 - 1920 1 3
3 - 1930 6 21
4 - 1961 11 11
4 R 1988 3 27 2s
3 R 1991 3 31 2s
4 - 1992 3 29 2s
3 R 2011 3 27 2s
4 - 2014 10 26 2s
3 - 2018 10 28 2s
4 - 2020 12 27 2s
3 -
Z Europe/Warsaw
1:24 - 1880
1:24 - 1915 8 5
1 c 1918 9 16 3
2 O 1922 6
1 O 1940 6 23 2
1 c 1944 10
1 O 1977
1 W- 1988
1 E
Z Europe/Zurich
0:34:8 - 1853 7 16
0:29:46 - 1894 6
1 CH 1981
1 E
Z Indian/Chagos
4:49:40 - 1907
5 - 1996
6 -
Z Indian/Maldives
4:54 - 1880
4:54 - 1960
5 -
Z Indian/Mauritius
3:50 - 1907
4 MU
Z Pacific/Apia
12:33:4 - 1892 7 5
-11:26:56 - 1911
-11:30 - 1950
-11 WS 2011 12 29 24
13 WS
Z Pacific/Auckland
11:39:4 - 1868 11 2
11:30 NZ 1946
12 NZ
Z Pacific/Bougainville
10:22:16 - 1880
9:48:32 - 1895
10 - 1942 7
9 - 1945 8 21
10 - 2014 12 28 2
11 -
Z Pacific/Chatham
12:13:48 - 1868 11 2
12:15 - 1946
12:45 k
Z Pacific/Easter
-7:17:28 - 1890
-7:17:28 - 1932 9
-7 x 1982 3 14 3u
-6 x
Z Pacific/Efate
11:13:16 - 1912 1 13
11 VU
Z Pacific/Fakaofo
-11:24:56 - 1901
-11 - 2011 12 30
13 -
Z Pacific/Fiji
11:55:44 - 1915 10 26
12 FJ
Z Pacific/Galapagos
-5:58:24 - 1931
-5 - 1986
-6 EC
Z Pacific/Gambier
-8:59:48 - 1912 10
-9 -
Z Pacific/Guadalcanal
10:39:48 - 1912 10
11 -
Z Pacific/Guam
-14:21 - 1844 12 31
9:39 - 1901
10 - 1941 12 10
9 - 1944 7 31
10 Gu 2000 12 23
10 -
Z Pacific/Honolulu
-10:31:26 - 1896 1 13 12
-10:30 - 1933 4 30 2
-10:30 1 1933 5 21 12
-10:30 u 1947 6 8 2
-10 -
Z Pacific/Kanton
0 - 1937 8 31
-12 - 1979 10
-11 - 1994 12 31
13 -
Z Pacific/Kiritimati
-10:29:20 - 1901
-10:40 - 1979 10
-10 - 1994 12 31
14 -
Z Pacific/Kosrae
-13:8:4 - 1844 12 31
10:51:56 - 1901
11 - 1914 10
9 - 1919 2
11 - 1937
10 - 1941 4
9 - 1945 8
11 - 1969 10
12 - 1999
11 -
Z Pacific/Kwajalein
11:9:20 - 1901
11 - 1937
10 - 1941 4
9 - 1944 2 6
11 - 1969 10
-12 - 1993 8 20 24
12 -
Z Pacific/Marquesas
-9:18 - 1912 10
-9:30 -
Z Pacific/Nauru
11:7:40 - 1921 1 15
11:30 - 1942 8 29
9 - 1945 9 8
11:30 - 1979 2 10 2
12 -
Z Pacific/Niue
-11:19:40 - 1952 10 16
-11:20 - 1964 7
-11 -
Z Pacific/Norfolk
11:11:52 - 1901
11:12 - 1951
11:30 - 1974 10 27 2s
11:30 1 1975 3 2 2s
11:30 - 2015 10 4 2s
11 - 2019 7
11 AN
Z Pacific/Noumea
11:5:48 - 1912 1 13
11 NC
Z Pacific/Pago_Pago
12:37:12 - 1892 7 5
-11:22:48 - 1911
-11 -
Z Pacific/Palau
-15:2:4 - 1844 12 31
8:57:56 - 1901
9 -
Z Pacific/Pitcairn
-8:40:20 - 1901
-8:30 - 1998 4 27
-8 -
Z Pacific/Port_Moresby
9:48:40 - 1880
9:48:32 - 1895
10 -
Z Pacific/Rarotonga
13:20:56 - 1899 12 26
-10:39:4 - 1952 10 16
-10:30 - 1978 11 12
-10 CK
Z Pacific/Tahiti
-9:58:16 - 1912 10
-10 -
Z Pacific/Tarawa
11:32:4 - 1901
12 -
Z Pacific/Tongatapu
12:19:12 - 1945 9 10
12:20 - 1961
13 - 1999
13 TO
L Africa/Accra Africa/Abidjan
L Africa/Addis_Ababa Africa/Nairobi
L Africa/Asmara Africa/Nairobi
L Africa/Asmera Africa/Nairobi
L Africa/Bamako Africa/Abidjan
L Africa/Bangui Africa/Lagos
L Africa/Banjul Africa/Abidjan
L Africa/Blantyre Africa/Maputo
L Africa/Brazzaville Africa/Lagos
L Africa/Bujumbura Africa/Maputo
L Africa/Conakry Africa/Abidjan
L Africa/Dakar Africa/Abidjan
L Africa/Dar_es_Salaam Africa/Nairobi
L Africa/Djibouti Africa/Nairobi
L Africa/Douala Africa/Lagos
L Africa/Freetown Africa/Abidjan
L Africa/Gaborone Africa/Maputo
L Africa/Harare Africa/Maputo
L Africa/Kampala Africa/Nairobi
L Africa/Kigali Africa/Maputo
L Africa/Kinshasa Africa/Lagos
L Africa/Libreville Africa/Lagos
L Africa/Lome Africa/Abidjan
L Africa/Luanda Africa/Lagos
L Africa/Lubumbashi Africa/Maputo
L Africa/Lusaka Africa/Maputo
L Africa/Malabo Africa/Lagos
L Africa/Maseru Africa/Johannesburg
L Africa/Mbabane Africa/Johannesburg
L Africa/Mogadishu Africa/Nairobi
L Africa/Niamey Africa/Lagos
L Africa/Nouakchott Africa/Abidjan
L Africa/Ouagadougou Africa/Abidjan
L Africa/Porto-Novo Africa/Lagos
L Africa/Timbuktu Africa/Abidjan
L America/Anguilla America/Puerto_Rico
L America/Antigua America/Puerto_Rico
L America/Argentina/ComodRivadavia America/Argentina/Catamarca
L America/Aruba America/Puerto_Rico
L America/Atikokan America/Panama
L America/Atka America/Adak
L America/Blanc-Sablon America/Puerto_Rico
L America/Buenos_Aires America/Argentina/Buenos_Aires
L America/Catamarca America/Argentina/Catamarca
L America/Cayman America/Panama
L America/Coral_Harbour America/Panama
L America/Cordoba America/Argentina/Cordoba
L America/Creston America/Phoenix
L America/Curacao America/Puerto_Rico
L America/Dominica America/Puerto_Rico
L America/Ensenada America/Tijuana
L America/Fort_Wayne America/Indiana/Indianapolis
L America/Godthab America/Nuuk
L America/Grenada America/Puerto_Rico
L America/Guadeloupe America/Puerto_Rico
L America/Indianapolis America/Indiana/Indianapolis
L America/Jujuy America/Argentina/Jujuy
L America/Knox_IN America/Indiana/Knox
L America/Kralendijk America/Puerto_Rico
L America/Louisville America/Kentucky/Louisville
L America/Lower_Princes America/Puerto_Rico
L America/Marigot America/Puerto_Rico
L America/Mendoza America/Argentina/Mendoza
L America/Montreal America/Toronto
L America/Montserrat America/Puerto_Rico
L America/Nassau America/Toronto
L America/Nipigon America/Toronto
L America/Pangnirtung America/Iqaluit
L America/Port_of_Spain America/Puerto_Rico
L America/Porto_Acre America/Rio_Branco
L America/Rainy_River America/Winnipeg
L America/Rosario America/Argentina/Cordoba
L America/Santa_Isabel America/Tijuana
L America/Shiprock America/Denver
L America/St_Barthelemy America/Puerto_Rico
L America/St_Kitts America/Puerto_Rico
L America/St_Lucia America/Puerto_Rico
L America/St_Thomas America/Puerto_Rico
L America/St_Vincent America/Puerto_Rico
L America/Thunder_Bay America/Toronto
L America/Tortola America/Puerto_Rico
L America/Virgin America/Puerto_Rico
L America/Yellowknife America/Edmonton
L Antarctica/DumontDUrville Pacific/Port_Moresby
L Antarctica/McMurdo Pacific/Auckland
L Antarctica/South_Pole Pacific/Auckland
L Antarctica/Syowa Asia/Riyadh
L Arctic/Longyearbyen Europe/Berlin
L Asia/Aden Asia/Riyadh
L Asia/Ashkhabad Asia/Ashgabat
L Asia/Bahrain Asia/Qatar
L Asia/Brunei Asia/Kuching
L Asia/Calcutta Asia/Kolkata
L Asia/Choibalsan Asia/Ulaanbaatar
L Asia/Chongqing Asia/Shanghai
L Asia/Chungking Asia/Shanghai
L Asia/Dacca Asia/Dhaka
L Asia/Harbin Asia/Shanghai
L Asia/Istanbul Europe/Istanbul
L Asia/Kashgar Asia/Urumqi
L Asia/Katmandu Asia/Kathmandu
L Asia/Kuala_Lumpur Asia/Singapore
L Asia/Kuwait Asia/Riyadh
L Asia/Macao Asia/Macau
L Asia/Muscat Asia/Dubai
L Asia/Phnom_Penh Asia/Bangkok
L Asia/Rangoon Asia/Yangon
L Asia/Saigon Asia/Ho_Chi_Minh
L Asia/Tel_Aviv Asia/Jerusalem
L Asia/Thimbu Asia/Thimphu
L Asia/Ujung_Pandang Asia/Makassar
L Asia/Ulan_Bator Asia/Ulaanbaatar
L Asia/Vientiane Asia/Bangkok
L Atlantic/Faeroe Atlantic/Faroe
L Atlantic/Jan_Mayen Europe/Berlin
L Atlantic/Reykjavik Africa/Abidjan
L Atlantic/St_Helena Africa/Abidjan
L Australia/ACT Australia/Sydney
L Australia/Canberra Australia/Sydney
L Australia/Currie Australia/Hobart
L Australia/LHI Australia/Lord_Howe
L Australia/NSW Australia/Sydney
L Australia/North Australia/Darwin
L Australia/Queensland Australia/Brisbane
L Australia/South Australia/Adelaide
L Australia/Tasmania Australia/Hobart
L Australia/Victoria Australia/Melbourne
L Australia/West Australia/Perth
L Australia/Yancowinna Australia/Broken_Hill
L Brazil/Acre America/Rio_Branco
L Brazil/DeNoronha America/Noronha
L Brazil/East America/Sao_Paulo
L Brazil/West America/Manaus
L CET Europe/Brussels
L CST6CDT America/Chicago
L Canada/Atlantic America/Halifax
L Canada/Central America/Winnipeg
L Canada/Eastern America/Toronto
L Canada/Mountain America/Edmonton
L Canada/Newfoundland America/St_Johns
L Canada/Pacific America/Vancouver
L Canada/Saskatchewan America/Regina
L Canada/Yukon America/Whitehorse
L Chile/Continental America/Santiago
L Chile/EasterIsland Pacific/Easter
L Cuba America/Havana
L EET Europe/Athens
L EST America/Panama
L EST5EDT America/New_York
L Egypt Africa/Cairo
L Eire Europe/Dublin
L Etc/GMT+0 Etc/GMT
L Etc/GMT-0 Etc/GMT
L Etc/GMT0 Etc/GMT
L Etc/Greenwich Etc/GMT
L Etc/UCT Etc/UTC
L Etc/Universal Etc/UTC
L Etc/Zulu Etc/UTC
L Europe/Amsterdam Europe/Brussels
L Europe/Belfast Europe/London
L Europe/Bratislava Europe/Prague
L Europe/Busingen Europe/Zurich
L Europe/Copenhagen Europe/Berlin
L Europe/Guernsey Europe/London
L Europe/Isle_of_Man Europe/London
L Europe/Jersey Europe/London
L Europe/Kiev Europe/Kyiv
L Europe/Ljubljana Europe/Belgrade
L Europe/Luxembourg Europe/Brussels
L Europe/Mariehamn Europe/Helsinki
L Europe/Monaco Europe/Paris
L Europe/Nicosia Asia/Nicosia
L Europe/Oslo Europe/Berlin
L Europe/Podgorica Europe/Belgrade
L Europe/San_Marino Europe/Rome
L Europe/Sarajevo Europe/Belgrade
L Europe/Skopje Europe/Belgrade
L Europe/Stockholm Europe/Berlin
L Europe/Tiraspol Europe/Chisinau
L Europe/Uzhgorod Europe/Kyiv
L Europe/Vaduz Europe/Zurich
L Europe/Vatican Europe/Rome
L Europe/Zagreb Europe/Belgrade
L Europe/Zaporozhye Europe/Kyiv
L GB Europe/London
L GB-Eire Europe/London
L GMT Etc/GMT
L GMT+0 Etc/GMT
L GMT-0 Etc/GMT
L GMT0 Etc/GMT
L Greenwich Etc/GMT
L HST Pacific/Honolulu
L Hongkong Asia/Hong_Kong
L Iceland Africa/Abidjan
L Indian/Antananarivo Africa/Nairobi
L Indian/Christmas Asia/Bangkok
L Indian/Cocos Asia/Yangon
L Indian/Comoro Africa/Nairobi
L Indian/Kerguelen Indian/Maldives
L Indian/Mahe Asia/Dubai
L Indian/Mayotte Africa/Nairobi
L Indian/Reunion Asia/Dubai
L Iran Asia/Tehran
L Israel Asia/Jerusalem
L Jamaica America/Jamaica
L Japan Asia/Tokyo
L Kwajalein Pacific/Kwajalein
L Libya Africa/Tripoli
L MET Europe/Brussels
L MST America/Phoenix
L MST7MDT America/Denver
L Mexico/BajaNorte America/Tijuana
L Mexico/BajaSur America/Mazatlan
L Mexico/General America/Mexico_City
L NZ Pacific/Auckland
L NZ-CHAT Pacific/Chatham
L Navajo America/Denver
L PRC Asia/Shanghai
L PST8PDT America/Los_Angeles
L Pacific/Chuuk Pacific/Port_Moresby
L Pacific/Enderbury Pacific/Kanton
L Pacific/Funafuti Pacific/Tarawa
L Pacific/Johnston Pacific/Honolulu
L Pacific/Majuro Pacific/Tarawa
L Pacific/Midway Pacific/Pago_Pago
L Pacific/Pohnpei Pacific/Guadalcanal
L Pacific/Ponape Pacific/Guadalcanal
L Pacific/Saipan Pacific/Guam
L Pacific/Samoa Pacific/Pago_Pago
L Pacific/Truk Pacific/Port_Moresby
L Pacific/Wake Pacific/Tarawa
L Pacific/Wallis Pacific/Tarawa
L Pacific/Yap Pacific/Port_Moresby
L Poland Europe/Warsaw
L Portugal Europe/Lisbon
L ROC Asia/Taipei
L ROK Asia/Seoul
L Singapore Asia/Singapore
L Turkey Europe/Istanbul
L UCT Etc/UTC
L US/Alaska America/Anchorage
L US/Aleutian America/Adak
L US/Arizona America/Phoenix
L US/Central America/Chicago
L US/East-Indiana America/Indiana/Indianapolis
L US/Eastern America/New_York
L US/Hawaii Pacific/Honolulu
L US/Indiana-Starke America/Indiana/Knox
L US/Michigan America/Detroit
L US/Mountain America/Denver
L US/Pacific America/Los_Angeles
L US/Samoa Pacific/Pago_Pago
L UTC Etc/UTC
L Universal Etc/UTC
L W-SU Europe/Moscow
L WET Europe/Lisbon
L Zulu Etc/UTC"

end SpanQuery.Calendar
